import MarketChart.Plot.Point
import MarketChart.Window

/-!
# Lines and bars in a window

The points of a series are drawn at the position of their time on the axis, and only those within
the window. A line is cut into segments at anchors and at points where it ends.
-/

namespace MarketChart

/-- A line through positions and values. -/
abbrev Polyline := List (Float × Float)

/-- The position of a time on the axis, when it is there and within the window. -/
def position? (axis : List Int) (w : Window) (time : Int) : Option Float :=
  ((axis.idxOf? time).map Float.ofNat).filter w.contains

/-- The segment so far as a list of segments, none when it is empty. -/
def closed (current : Polyline) : List Polyline := if current.isEmpty then [] else [current]

/-- The segments of a line, of which the first goes on from points drawn already. -/
def lineSegmentsFrom (axis : List Int) (w : Window) (current : Polyline) :
    List RenderPoint → List Polyline
  | [] => closed current
  | p :: rest =>
    if p.isAnchor then closed current ++ lineSegmentsFrom axis w [] rest
    else
      let current := match position? axis w p.time with
        | some x => current ++ [(x, p.value)]
        | none => current
      if p.isTransparent then closed current ++ lineSegmentsFrom axis w [] rest
      else lineSegmentsFrom axis w current rest

/-- The segments of a line that lie within a window. -/
def lineSegments (points : List RenderPoint) (axis : List Int) (w : Window) : List Polyline :=
  lineSegmentsFrom axis w [] points

/-- The bars of a histogram that lie within a window, each from zero to its value. -/
def histogramBars (points : List RenderPoint) (axis : List Int) (w : Window) : List Polyline :=
  (points.filter fun p => p.value.isFinite).filterMap fun p =>
    (position? axis w p.time).map fun x => [(x, 0.0), (x, p.value)]

end MarketChart
