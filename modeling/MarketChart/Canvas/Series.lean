import MarketChart.Candle.Basic
import MarketChart.Indicator.Basic
import MarketChart.Plot.Point

/-!
# Series on a canvas

A series has a kind, which says how it is drawn, and data. The two are set apart from each other,
so a series may hold data that its kind does not draw.
-/

namespace MarketChart

/-- How a line or a histogram looks. -/
structure SeriesOptions where
  title : String
  color : String
  lineWidth : Float
deriving DecidableEq, Inhabited

/-- The colours of rising and falling candles. -/
structure CandleStyle where
  up : String := "#26a69a"
  down : String := "#ef5350"
deriving DecidableEq, Inhabited

/-- How a series is drawn. -/
inductive SeriesKind where
  | line (options : SeriesOptions)
  | histogram (options : SeriesOptions)
  | candlestick (style : CandleStyle)
deriving DecidableEq, Inhabited

/-- The kind of an indicator's series. -/
def SeriesKind.ofPlot (kind : PlotKind) (options : SeriesOptions) : SeriesKind :=
  match kind with
  | .line => .line options
  | .histogram => .histogram options

/-- What a series holds. -/
inductive SeriesData where
  | points (points : List RenderPoint)
  | candles (candles : List Candle)
deriving DecidableEq, Inhabited

/-- The times of the data. -/
def SeriesData.times : SeriesData → List Int
  | .points ps => ps.map RenderPoint.time
  | .candles cs => cs.map Candle.time

/-- A series. -/
structure Series where
  kind : SeriesKind
  data : SeriesData
deriving DecidableEq, Inhabited

/-- A series of a kind, without data. -/
def Series.ofKind (kind : SeriesKind) : Series :=
  match kind with
  | .candlestick _ => ⟨kind, .candles []⟩
  | _ => ⟨kind, .points []⟩

end MarketChart
