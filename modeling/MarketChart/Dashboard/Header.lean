import MarketChart.Document.Metadata

/-!
# The header lines

The two lines over the panes: the title of the chart, and what it shows.
-/

namespace MarketChart

/-- The title of a chart without one. -/
def defaultTitle : String := "Financial Chart"

/-- The title line; before a document is loaded it is the default. -/
def titleLine (m : Option Metadata) : String := (m.bind Metadata.title).getD defaultTitle

/-- The line under the title: market, timeframe, strategy and the last update. -/
def detailsLine : Option Metadata → String
  | none => "Chargement..."
  | some m =>
    let known (s : Option String) : String := s.getD "Unknown"
    let updated := match m.lastUpdated with
      | some t => "  |  Last updated: " ++ t.headerText
      | none => ""
    known m.symbol ++ "  |  " ++ known m.timeframe ++ "  |  Strategy: " ++ known m.strategy ++
      updated

end MarketChart
