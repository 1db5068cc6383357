import MarketChart.Json.Decode

/-!
# Points to plot and points to draw

A `PlotPoint` is a sample with the colour it would be drawn in, at a time in milliseconds; without
a finite value and a colour it is not visible. A `RenderPoint` is a point of a drawn series, at a
time in seconds. Gaps in a drawn series are marked by the colour `transparent`: on a point it ends
the line there, and on a point without a value, an anchor, it keeps the time on the axis.
-/

namespace MarketChart

/-- A sample with its colour. -/
structure PlotPoint where
  /-- Milliseconds since the epoch. -/
  time : Int
  value : Option Float := none
  color : Option String := none
deriving DecidableEq, Inhabited

namespace PlotPoint

/-- The sample has a finite value. -/
def isValid (p : PlotPoint) : Bool := p.value.any Float.isFinite

/-- The sample is drawn: it has a finite value and a colour. -/
def isVisible (p : PlotPoint) : Bool := p.isValid && p.color.isSome

/-- Seconds since the epoch, rounded down. -/
def seconds (p : PlotPoint) : Int := p.time / 1000

/-- Reads a point. -/
def decode? (v : Json) : Option PlotPoint := do
  let fields ← v.record? ["time", "value", "color"]
  return {
    time := ← fields.required "time" Json.int64?
    value := ← fields.withDefault "value" Json.lenient? none
    color := ← fields.optional "color" Json.text? }

/-- Writes a point. -/
def encode (p : PlotPoint) : Json :=
  .obj [("time", .int p.time), ("value", .ofOption .ofFloat p.value),
    ("color", .ofOption .str p.color)]

end PlotPoint

/-- The colour that marks gaps. -/
def transparent : String := "transparent"

/-- A point of a drawn series. -/
structure RenderPoint where
  /-- Seconds since the epoch. -/
  time : Int
  value : Float
  color : Option String := none
deriving DecidableEq, Inhabited

namespace RenderPoint

/-- A point without a value that keeps its time on the axis. -/
def anchor (time : Int) : RenderPoint := ⟨time, Number.notANumber, some transparent⟩

/-- The point, with the line ending at it. -/
def ending (p : RenderPoint) : RenderPoint := { p with color := some transparent }

/-- The point is marked as a gap or as the end of a line. -/
def isTransparent (p : RenderPoint) : Bool := p.color == some transparent

/-- The point is marked and has no value. -/
def isAnchor (p : RenderPoint) : Bool := p.value.isNaN && p.isTransparent

/-- The points agree; two that have no value agree in it, and so do the two zeros. -/
def same (p q : RenderPoint) : Bool :=
  p.time == q.time && ((p.value.isNaN && q.value.isNaN) || p.value == q.value) && p.color == q.color

/-- Two lists of points agree place by place. -/
def sameList (ps qs : List RenderPoint) : Bool :=
  ps.length == qs.length && (ps.zipWith same qs).all id

/-- Reads a point. -/
def decode? (v : Json) : Option RenderPoint := do
  let fields ← v.record? ["time", "value", "color"]
  return {
    time := ← fields.required "time" Json.int64?
    value := ← fields.required "value" Json.float?
    color := ← fields.optional "color" Json.text? }

/-- Writes a point; an absent colour is left out. -/
def encode (p : RenderPoint) : Json :=
  .obj ([("time", .int p.time), ("value", .ofFloat p.value)] ++ Json.ofPresent "color" .str p.color)

end RenderPoint

end MarketChart
