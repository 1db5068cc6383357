import MarketChart.Canvas.Basic
import MarketChart.Picture.Color
import MarketChart.Picture.Segment

/-!
# The traces of a canvas

What is drawn of a canvas in its window: the segments of lines, the bars of histograms, and for
candles a wick each and one line through the closing prices. `yBounds` is the range of values
that the traces need.
-/

namespace MarketChart

/-- A coloured line. -/
structure Trace where
  points : Polyline
  color : Color
deriving DecidableEq, Inhabited

/-- The candles within a window, with their positions. -/
def candlesIn (candles : List Candle) (axis : List Int) (w : Window) : List (Float × Candle) :=
  candles.filterMap fun c => (position? axis w c.time).map fun x => (x, c)

/-- The traces of candles: a wick from low to high for each, and then the closing prices. -/
def candleTraces (candles : List Candle) (axis : List Int) (w : Window) (up down : Color) :
    List Trace :=
  let seen := candlesIn candles axis w
  seen.map (fun (x, c) => ⟨[(x, c.low), (x, c.high)], if c.isBullish then up else down⟩) ++
    [⟨seen.map fun (x, c) => (x, c.closing), .white⟩]

/-- The traces of a series; data that its kind does not draw leave none. -/
def Series.traces (s : Series) (axis : List Int) (w : Window) : List Trace :=
  match s.kind, s.data with
  | .line options, .points points =>
    (lineSegments points axis w).map fun line => ⟨line, .ofHex options.color⟩
  | .histogram options, .points points =>
    (histogramBars points axis w).map fun line => ⟨line, .ofHex options.color⟩
  | .candlestick style, .candles candles =>
    candleTraces candles axis w (.ofHex style.up) (.ofHex style.down)
  | _, _ => []

namespace Canvas

variable {L : Type}

/-- The window that is drawn: the one on view, else all bars. -/
def drawnWindow (c : Canvas L) : Window := c.window.getD (.ofBars c.timeScale.length)

/-- The traces of a canvas, series by series. -/
def traces (c : Canvas L) : List Trace :=
  let axis := c.timeScale
  let w := c.drawnWindow
  c.series.flatMap fun e => e.2.traces axis w

end Canvas

/-- The finite values of traces. -/
def finiteValues (traces : List Trace) : List Float :=
  (traces.flatMap fun t => t.points.map (·.2)).filter Float.isFinite

/-- The bounds of the values of traces, widened by a twentieth of their difference; `none` when no
value is finite. -/
def yBounds (traces : List Trace) : Option (Float × Float) :=
  let values := finiteValues traces
  let low := values.foldl Number.smaller Number.largest
  let high := values.foldl Number.larger (-Number.largest)
  if high < low then none
  else
    let margin := Number.larger ((high - low) * 0.05) Number.epsilon
    some (low - margin, high + margin)

end MarketChart
