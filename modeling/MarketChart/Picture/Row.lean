import MarketChart.Picture.Color
import MarketChart.Text.CellWidth
import MarketChart.Text.Cluster

/-!
# Rows of the screen

A row of the screen is a list of cells. A text goes into cells cluster by cluster, and a cluster
that is two cells wide leaves a blank one behind it. `Row.runs` puts neighbouring cells of the
same look together.
-/

namespace MarketChart

/-- How a text stands out. -/
inductive Emphasis where
  | plain
  | bold
  | italic
  | boldBlinking
deriving DecidableEq, Inhabited

/-- The name of an emphasis. -/
def Emphasis.name : Emphasis → String
  | .plain => ""
  | .bold => "BOLD"
  | .italic => "ITALIC"
  | .boldBlinking => "BOLD | SLOW_BLINK"

/-- A text in one look. -/
structure Run where
  text : String
  color : Color := .reset
  emphasis : Emphasis := .plain
deriving DecidableEq, Inhabited

/-- A cell of the screen, with the cluster of characters in it. -/
structure Cell where
  symbol : String := " "
  color : Color := .reset
  emphasis : Emphasis := .plain
deriving DecidableEq, Inhabited

/-! ## Runs in cells -/

/-- A cluster of characters in one look, and the number of cells that it takes. -/
structure Glyph where
  width : Nat
  cell : Cell
deriving DecidableEq, Inhabited

/-- The glyphs of a run. Line feeds are left out. -/
def Run.glyphs (r : Run) : List Glyph :=
  ((Text.clusters r.text).filter (· ≠ ['\n'])).map fun cluster =>
    ⟨Text.charsWidth cluster, String.ofList cluster, r.color, r.emphasis⟩

/-- The number of cells of a run as one text. It is less than that of its glyphs where letters of
neighbouring clusters make one. -/
def Run.width (r : Run) : Nat := Text.charsWidth r.text.toList

/-- The cells of a glyph: it stands in the first one, and the others that it covers are blank. A
glyph without width has no cell. -/
def Glyph.cells (g : Glyph) : List Cell :=
  match g.width with
  | 0 => []
  | covered + 1 => g.cell :: List.replicate covered {}

/-- The cells of glyphs up to the first one that does not fit any more. -/
def fitting : Nat → List Glyph → List Cell
  | _, [] => []
  | room, g :: rest => if g.width ≤ room then g.cells ++ fitting (room - g.width) rest else []

/-- The cells of runs, as far as they fit. A glyph that is wider than all the room is left out. -/
def cellsOf (room : Nat) (runs : List Run) : List Cell :=
  fitting room ((runs.flatMap Run.glyphs).filter (·.width ≤ room))

/-! ## Rows -/

/-- The cells of a row from left to right. -/
abbrev Row := List Cell

namespace Row

/-- Puts a cell in front of runs; it becomes part of the first one if that looks the same. -/
def consRun (c : Cell) : List Run → List Run
  | [] => [⟨c.symbol, c.color, c.emphasis⟩]
  | r :: rest =>
    if c.color = r.color ∧ c.emphasis = r.emphasis then
      { r with text := c.symbol ++ r.text } :: rest
    else ⟨c.symbol, c.color, c.emphasis⟩ :: r :: rest

/-- The runs of a row: neighbouring cells of the same look are one run. -/
def runs (row : Row) : List Run := row.foldr consRun []

/-- The characters of cells, without those that the cluster before them covers. -/
def textFrom : Nat → Row → String
  | _, [] => ""
  | 0, c :: rest => c.symbol ++ textFrom (Text.charsWidth c.symbol.toList - 1) rest
  | covered + 1, _ :: rest => textFrom covered rest

/-- The characters of a row. -/
def text (row : Row) : String := textFrom 0 row

/-- So many blank cells. -/
def blanks (n : Nat) : Row := List.replicate n {}

/-- Runs in the middle of a width. -/
def centered (width : Nat) (runs : List Run) : Row :=
  let cells := cellsOf width runs
  let left := width / 2 - cells.length / 2
  blanks left ++ cells ++ blanks (width - left - cells.length)

/-! ## Boxes -/

/-- So many dashes of a box. -/
def dashes (n : Nat) (color : Color) : Row := List.replicate n ⟨"─", color, .plain⟩

/-- Writes a glyph over the cells from `x` on. A glyph without width takes the place of the one at
`x`, and the next one takes its place. -/
def put (x : Nat) (g : Glyph) (row : Row) : Row :=
  row.mapIdx fun i c => if i = x then g.cell else if x < i ∧ i < x + g.width then {} else c

/-- Writes glyphs over the cells from `x` on, up to the first one that goes past `bound`. -/
def putGlyphs (bound : Nat) : Nat → List Glyph → Row → Row
  | _, [], row => row
  | x, g :: rest, row =>
    if x + g.width ≤ bound then putGlyphs bound (x + g.width) rest (row.put x g) else row

/-- Writes runs over the cells from `x` on, each as far behind the one before it as that is wide. -/
def putRuns (bound : Nat) : Nat → List Run → Row → Row
  | _, [], row => row
  | x, r :: rest, row =>
    if x < bound then putRuns bound (x + r.width) rest (putGlyphs bound x r.glyphs row) else row

/-- The upper edge of a box, with a title after so many dashes. The title has as much room as its
runs are wide, within the box. -/
def boxTop (width : Nat) (color : Color) (before : Nat) (title : List Run) : Row :=
  let room := min (width - 2 - before) ((title.map Run.width).foldr (· + ·) 0)
  putRuns (1 + before + room) (1 + before) title
    ([⟨"┌", color, .plain⟩] ++ dashes (width - 2) color ++ [⟨"┐", color, .plain⟩])

/-- A row within a box. -/
def boxed (color : Color) (row : Row) : Row :=
  [⟨"│", color, .plain⟩] ++ row ++ [⟨"│", color, .plain⟩]

/-- The lower edge of a box. -/
def boxBottom (width : Nat) (color : Color) : Row :=
  [⟨"└", color, .plain⟩] ++ dashes (width - 2) color ++ [⟨"┘", color, .plain⟩]

end Row

end MarketChart
