import MarketChart.Candle.Basic
import MarketChart.Document.Metadata
import MarketChart.Document.Pane
import MarketChart.Document.Report
import MarketChart.Indicator.Basic

/-!
# Chart documents

Everything a source provides for one chart.
-/

namespace MarketChart

/-- A chart document. -/
structure ChartDocument where
  candlestick : List RawCandle := []
  indicators : KeyMap Indicator := .empty
  metadata : Metadata := {}
  strategy : Option StrategyReport := none
  ui : UiConfig := {}
deriving Inhabited

namespace ChartDocument

/-- Reads a chart document. -/
def decode? (v : Json) : Option ChartDocument := do
  let fields ← v.record? ["candlestick", "indicators", "metadata", "strategy", "ui"]
  return {
    candlestick := ← fields.withDefault "candlestick" (Json.list? RawCandle.decode?) []
    indicators := ← fields.withDefault "indicators" (Json.map? Indicator.decode?) .empty
    metadata := ← fields.withDefault "metadata" Metadata.decode? {}
    strategy := ← fields.optional "strategy" StrategyReport.decode?
    ui := ← fields.withDefault "ui" UiConfig.decode? {} }

/-- Writes a chart document. -/
def encode (d : ChartDocument) : Json :=
  .obj [("candlestick", .ofList RawCandle.encode d.candlestick),
    ("indicators", .ofMap Indicator.encode d.indicators), ("metadata", d.metadata.encode),
    ("strategy", .ofOption StrategyReport.encode d.strategy), ("ui", d.ui.encode)]

end ChartDocument

end MarketChart
