import MarketChart.Json.Decode
import MarketChart.Number.Double

/-!
# Windows

A window is the part of a time axis that is on view, in bars: `0` is the first bar of the axis,
and the bounds may lie between bars or beyond the ends. Moving a window keeps its span up to
rounding; zooming keeps its right edge.
-/

namespace MarketChart

/-- A range of bar positions. -/
structure Window where
  left : Float
  right : Float
deriving DecidableEq, Inhabited

namespace Window

/-- The number of bars from edge to edge. -/
def span (w : Window) : Float := w.right - w.left

/-- The window moved by a number of bars. -/
def shifted (w : Window) (bars : Float) : Window := ⟨w.left + bars, w.right + bars⟩

/-- The window with its span multiplied by a factor, but never below two bars, and its right edge
in place. -/
def zoomed (w : Window) (factor : Float) : Window :=
  ⟨w.right - Number.larger (w.span * factor) 2.0, w.right⟩

/-- The window of all bars of an axis with `bars` of them; an empty axis counts as one bar. -/
def ofBars (bars : Nat) : Window := ⟨0.0, Float.ofNat (bars - 1)⟩

/-- A position lies within the window, edges included. -/
def contains (w : Window) (x : Float) : Bool := w.left ≤ x && x ≤ w.right

/-- Reads a window. -/
def decode? (v : Json) : Option Window := do
  let fields ← v.record? ["from", "to"]
  return ⟨← fields.required "from" Json.float?, ← fields.required "to" Json.float?⟩

/-- Writes a window. -/
def encode (w : Window) : Json :=
  .obj [("from", .ofFloat w.left), ("to", .ofFloat w.right)]

end Window

end MarketChart
