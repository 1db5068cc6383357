import MarketChart.Dashboard.Basic
import MarketChart.Dashboard.Header
import MarketChart.Picture.Row
import MarketChart.Picture.Trace

/-!
# The screen

The dashboard as rows of text for a terminal of a given width: the header, the panes with their
titles and value labels, the trades, and the footer with the keys, the status or the question
before quitting.
-/

namespace MarketChart

/-- A pane on the screen: its upper edge and the texts in it, from top to bottom. -/
structure PanePicture where
  title : Row
  texts : List String
deriving DecidableEq, Inhabited

/-- The screen. -/
structure Screen where
  header : List Row
  panes : List PanePicture
  trades : List Row
  footer : List Row
deriving DecidableEq, Inhabited

namespace Screen

/-- At most so many trades are shown. -/
def maxTradeRows : Nat := 6

/-- The name of the program in the upper edge of the header. -/
def programTitle : String := " LazyChart "

/-! ## Header -/

/-- The rows of the header. -/
def headerRows (width : Nat) (m : Option Metadata) : List Row :=
  let inner := width - 2
  [.boxTop width .cyan ((inner - programTitle.length) / 2) [⟨programTitle, .cyan, .plain⟩],
    .boxed .cyan (Row.centered inner [⟨titleLine m, .green, .bold⟩]),
    .boxed .cyan (Row.centered inner [⟨detailsLine m, .gray, .plain⟩]),
    .boxBottom width .cyan]

/-! ## Panes -/

/-- The labels of the values of a canvas, or that there is nothing to show. A label takes at most
a third of the width. -/
def valueLabels {L : Type} (inner : Nat) (c : Canvas L) : List String :=
  match yBounds c.traces with
  | none => ["Pas de données à afficher"]
  | some (low, high) =>
    [high, (low + high) / 2.0, low].map fun x =>
      String.ofList ((Number.fixed2 x).toList.take (inner / 3))

/-- A pane, in another colour when it has the focus. -/
def panePicture (width : Nat) (name : String) (focused : Bool) (v : View) : PanePicture :=
  let color := if focused then .yellow else .cyan
  ⟨.boxTop width color 0 [⟨" " ++ name ++ " ", color, .plain⟩], valueLabels (width - 2) v.canvas⟩

/-- The panes: the living canvases in the containers of the views, under the names of the views. -/
def panePictures (width : Nat) (d : Dashboard) : List PanePicture :=
  let panes := d.chart.panes
  let shown := panes.containers.filterMap fun c => panes.viewIn? c.id
  if shown.isEmpty then [⟨.boxTop width .reset 0 [], ["Aucun pane"]⟩]
  else shown.mapIdx fun i v => panePicture width (panes.names[i]?.getD "?") (i == d.focused) v

/-! ## Trades -/

/-- The widths of the columns of the trade table; one blank stands between two columns. -/
def columnWidths : List Nat := [4, 22, 10, 12, 12, 10, 12]

/-- The titles of the columns. -/
def columnTitles : List String := ["#", "Date", "Direction", "Entry", "Exit", "Size", "P/L"]

/-- A text in a column: cut or filled up to its width, and a blank to divide it from the next. -/
def cell (width : Nat) (text : String) : String :=
  let cs := text.toList.take width
  String.ofList (cs ++ List.replicate (width + 1 - cs.length) ' ')

/-- The texts of all columns but the last, and where the last begins. -/
def leadingCells (texts : List String) : String :=
  String.join ((columnWidths.dropLast.zip texts).map fun (w, t) => cell w t)

/-- The texts of a row of the trade table. -/
def rowTexts (r : TradeRow) : List String :=
  [toString r.number, r.date, r.direction.label, r.entryPrice, r.exitPrice, r.size]

/-- Green for a gain, red for a loss. -/
def profitColor (x : Float) : Color := if 0.0 ≤ x then .green else .red

/-- Runs filled up to a width with blanks in a look. -/
def filled (width : Nat) (emphasis : Emphasis) (color : Color) (runs : List Run) : Row :=
  let cells := cellsOf width runs
  cells ++ List.replicate (width - cells.length) ⟨" ", color, emphasis⟩

/-- The row of a trade. -/
def tradeRow (inner : Nat) (r : TradeRow) : Row :=
  let emphasis := if r.isOpen then .italic else .plain
  let profit := String.ofList (r.profit.toList.take 12)
  .boxed .cyan (filled inner emphasis .reset
    [⟨leadingCells (rowTexts r), .reset, emphasis⟩, ⟨profit, profitColor r.profitValue, emphasis⟩])

/-- The title of the trades: the summary in the colour of its total. -/
def tradesTitle (t : TradeTable) : List Run :=
  [⟨" Trades | ", .cyan, .plain⟩, ⟨t.summary, profitColor t.totalProfit, .plain⟩,
    ⟨" ", .cyan, .plain⟩]

/-- The rows of the trades: the column titles, the last trades and a blank row. -/
def tradeRows (width : Nat) (t : TradeTable) : List Row :=
  let inner := width - 2
  let titles := leadingCells columnTitles.dropLast ++ (columnTitles.getLast?.getD "")
  [.boxTop width .cyan 0 (tradesTitle t),
    .boxed .cyan (filled inner .bold .yellow [⟨titles, .yellow, .bold⟩])] ++
    (t.rows.drop (t.rows.length - maxTradeRows)).map (tradeRow inner) ++
    [.boxed .cyan (Row.blanks inner), .boxBottom width .cyan]

/-! ## Footer -/

/-- The question before quitting. -/
def quitQuestion : List Run :=
  [⟨"⚠  Appuyez sur ", .yellow, .bold⟩, ⟨"[q]", .red, .boldBlinking⟩,
    ⟨" à nouveau pour quitter, ou n'importe quelle autre touche pour annuler ⚠", .yellow, .bold⟩]

/-- The keys and what they do. -/
def keyHelp : List Run :=
  [("[q]", " Quit  "), ("[← → / h l]", " Pan  "), ("[+ -]", " Zoom  "), ("[Tab]", " Pane  "),
    ("[f]", " Fit  "), ("[r]", " Refresh")].flatMap fun (key, help) =>
      [⟨key, .yellow, .bold⟩, ⟨help, .reset, .plain⟩]

/-- The line in the footer. -/
def footerLine (d : Dashboard) : List Run :=
  if d.confirmQuit then quitQuestion
  else match d.status with
    | some status => [⟨status, .red, .plain⟩]
    | none => keyHelp

/-- The rows of the footer. -/
def footerRows (width : Nat) (d : Dashboard) : List Row :=
  [.boxTop width .cyan 0 [], .boxed .cyan (Row.centered (width - 2) (footerLine d)),
    .boxBottom width .cyan]

/-- The screen of a dashboard. -/
def ofDashboard (width : Nat) (d : Dashboard) : Screen where
  header := headerRows width (d.chart.loaded.map LoadedChart.metadata)
  panes := panePictures width d
  trades := tradeRows width ((d.chart.loaded.map LoadedChart.trades).getD {})
  footer := footerRows width d

/-- The rows of a pane: its upper edge and its texts. -/
def PanePicture.rows (p : PanePicture) : List String :=
  Row.text p.title :: p.texts.map ("│ " ++ ·)

/-- The screen as plain text. -/
def text (s : Screen) : String :=
  let rows := s.header.map Row.text ++ s.panes.flatMap PanePicture.rows ++ s.trades.map Row.text ++
    s.footer.map Row.text
  String.join (rows.map (· ++ "\n"))

end Screen

end MarketChart
