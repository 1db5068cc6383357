import MarketChart.Number.Double

/-!
# Ranges of values

A range of prices or sample values, and how far two of them overlap: the share of the shorter one
that lies in both.
-/

namespace MarketChart

/-- A range of values. -/
structure ValueRange where
  low : Float
  high : Float
deriving DecidableEq, Inhabited

namespace ValueRange

/-- The range of no values. -/
def zero : ValueRange := ⟨0.0, 0.0⟩

/-- The difference of the bounds. -/
def span (r : ValueRange) : Float := r.high - r.low

/-- The range widened to hold a value. -/
def widen (r : ValueRange) (x : Float) : ValueRange :=
  ⟨Number.smaller r.low x, Number.larger r.high x⟩

/-- The range of a list of values. -/
def ofValues : List Float → ValueRange
  | [] => zero
  | x :: rest => rest.foldl widen ⟨x, x⟩

/-- The span of what two ranges share. -/
def sharedSpan (a b : ValueRange) : Float :=
  Number.larger (Number.smaller a.high b.high - Number.larger a.low b.low) 0.0

/-- The shared part is at least `threshold` of the shorter range. A range of span zero overlaps
nothing. -/
def overlaps (a b : ValueRange) (threshold : Float) : Bool :=
  if a.span == 0.0 || b.span == 0.0 then false
  else threshold ≤ sharedSpan a b / Number.smaller a.span b.span

end ValueRange

end MarketChart
