import MarketChart.Picture.Trace

/-!
# Commands on a canvas and their answers
-/

namespace MarketChart

/-- A command on one canvas. -/
inductive ViewCommand where
  | addSeries (kind : SeriesKind)
  | setData (id : Nat) (data : SeriesData)
  | removeSeries (id : Nat)
  | window
  | fit
  | setWidth (width : Nat)
  | remove
deriving Inhabited

/-- What a command answers. -/
inductive Answer where
  | done
  /-- The id of a new series or subscription. -/
  | id (n : Nat)
  | window (w : Option Window)
  | view (number : Option Nat)
  | containers (ids : List String)
  | contents (series : List (Nat × Series)) (axis : List Int)
  | picture (traces : List Trace) (w : Window)
  | failed (cause : Cause)
  /-- There is no canvas of that number. -/
  | noView
deriving Inhabited

end MarketChart
