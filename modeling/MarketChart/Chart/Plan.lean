import MarketChart.Candle.Sanitize
import MarketChart.Chart.Style
import MarketChart.Document.Chart
import MarketChart.Panes.Layout
import MarketChart.Plot.Stream
import MarketChart.Trades.Table

/-!
# Plans

Everything about a chart that follows from its document alone: which candles it shows, on which
pane every indicator goes and how it is drawn, which panes there are, and the trade table.
`Plan.build` makes the plan; drawing it is the matter of the chart.
-/

namespace MarketChart

/-- The samples of an indicator as plotted in a colour; those that are not displayed have none. -/
def Indicator.plotted (i : Indicator) (color : String) : List PlotPoint :=
  i.data.map fun s => ⟨s.time, s.value, if s.isDisplayed then some color else none⟩

/-- The series of one indicator. -/
structure PlannedSeries where
  config : SeriesConfig
  points : List RenderPoint
deriving DecidableEq, Inhabited

/-- What a chart shows. -/
structure LoadedChart where
  metadata : Metadata
  /-- Canonical candles by time. -/
  candles : List Candle
  /-- The pane of every indicator. -/
  assignment : KeyMap String
  /-- The configuration of every indicator's series. -/
  series : KeyMap SeriesConfig
  trades : TradeTable
deriving Inhabited

/-- What is to be drawn for a document. -/
structure Plan where
  metadata : Metadata
  candles : List Candle
  assignment : KeyMap String
  layout : PaneLayout
  series : KeyMap PlannedSeries
  trades : TradeTable
deriving Inhabited

namespace Plan

/-- The series of an indicator on its pane. -/
def plannedSeries (settings : Settings) (overrides : Option Overrides) (assignment : KeyMap String)
    (key : String) (indicator : Indicator) : PlannedSeries :=
  let fields := (overrides.bind (·.find? key)).bind Override.fields
  let pane := (assignment.find? key).getD mainPane
  let config := SeriesConfig.build settings fields pane key indicator
  ⟨config, adapt (indicator.plotted config.options.color)⟩

/-- The plan of a document. -/
def build (settings : Settings) (overrides : Option Overrides) (document : ChartDocument) : Plan :=
  let candles := sortByTime (sanitize document.candlestick)
  let assignment :=
    settings.classifier.assignAll (priceRange candles) overrides document.indicators
  { metadata := document.metadata
    candles
    assignment
    layout := .build assignment document.ui settings
    series := document.indicators.mapEntries (plannedSeries settings overrides assignment)
    trades := .build document.strategy candles }

/-- What the chart shows once the plan is drawn. -/
def loaded (p : Plan) : LoadedChart where
  metadata := p.metadata
  candles := p.candles
  assignment := p.assignment
  series := p.series.mapEntries fun _ s => s.config
  trades := p.trades

end Plan

end MarketChart
