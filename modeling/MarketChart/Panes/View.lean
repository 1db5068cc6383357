import MarketChart.Canvas.Basic
import MarketChart.Panes.Sync

/-!
# Views

A view is a named pane with its container and its canvas. The listeners on the canvas of a view
are numbers: listener `i` records the changes of the window as those of view `i`.

For trials, any operation of the view in a given container can be made to fail; the list of such
faults goes into every operation that it may concern.
-/

namespace MarketChart

/-- An operation that fails in a container. -/
structure Fault where
  operation : Operation
  container : String
deriving DecidableEq, Inhabited

/-- The place of a view on the screen. -/
structure Container where
  id : String
  width : Nat
deriving DecidableEq, Inhabited

/-- A named pane. -/
structure View where
  name : String
  container : Container
  canvas : Canvas Nat
  /-- The listener that records the changes of the window. -/
  subscription : Option Nat := none
  /-- The number of views made before this one. -/
  serial : Nat := 0
deriving Inhabited

/-- Tells the listeners of a canvas of its window. -/
def Canvas.tell (c : Canvas Nat) (s : Sync) : Canvas Nat × Sync :=
  (c.startRound.endRound c.listeners, c.listeners.foldl (fun s l => s.record l.2 c.window) s)

/-- Sets the window of a canvas and tells its listeners. -/
def Canvas.scroll (c : Canvas Nat) (w : Window) (s : Sync) : Except Cause (Canvas Nat × Sync) :=
  (c.setWindow w).map fun c => c.tell s

/-- Sets the window of a canvas to all bars and tells its listeners; without bars nothing
happens. -/
def Canvas.fitContent (c : Canvas Nat) (s : Sync) : Except Cause (Canvas Nat × Sync) :=
  c.fit.map fun
    | some c => c.tell s
    | none => (c, s)

namespace View

/-- The operation that adds a series of a kind. -/
def adding : SeriesKind → Operation
  | .line _ => .line
  | .histogram _ => .histogram
  | .candlestick _ => .candlestick

/-- The operation that sets data. -/
def setting : SeriesData → Operation
  | .points _ => .setPoints
  | .candles _ => .setCandles

/-- Runs an operation on the canvas of a view, unless it is made to fail. -/
def attempt {α : Type} (v : View) (faults : List Fault) (operation : Operation)
    (run : Canvas Nat → Except Cause α) : Except Cause α :=
  if faults.contains ⟨operation, v.container.id⟩ then .error (.injected operation) else run v.canvas

/-- The view with another canvas. -/
def withCanvas (v : View) (c : Canvas Nat) : View := { v with canvas := c }

/-- Adds a series and gives its id. -/
def addSeries (v : View) (faults : List Fault) (kind : SeriesKind) : Except Cause (View × Nat) :=
  (v.attempt faults (adding kind) (·.addSeries kind)).map fun (c, id) => (v.withCanvas c, id)

/-- Replaces the data of a series. -/
def setData (v : View) (faults : List Fault) (id : Nat) (data : SeriesData) : Except Cause View :=
  (v.attempt faults (setting data) (·.setData id data)).map v.withCanvas

/-- Removes a series. -/
def removeSeries (v : View) (faults : List Fault) (id : Nat) : Except Cause View :=
  (v.attempt faults .removeSeries (·.removeSeries id)).map v.withCanvas

/-- Sets the window. -/
def setWindow (v : View) (faults : List Fault) (w : Window) (s : Sync) :
    Except Cause (View × Sync) :=
  (v.attempt faults .setWindow (·.scroll w s)).map fun (c, s) => (v.withCanvas c, s)

/-- Sets the window to all bars. -/
def fit (v : View) (faults : List Fault) (s : Sync) : Except Cause (View × Sync) :=
  (v.attempt faults .fit (·.fitContent s)).map fun (c, s) => (v.withCanvas c, s)

/-- Sets the width of the canvas. -/
def setWidth (v : View) (faults : List Fault) (width : Nat) : Except Cause View :=
  (v.attempt faults .setWidth (·.setWidth width)).map v.withCanvas

/-- Sets the width of the container, and of the canvas if it can be set. -/
def resize (v : View) (faults : List Fault) (width : Nat) : View :=
  let v := { v with container := { v.container with width } }
  match v.setWidth faults width with
  | .ok v => v
  | .error _ => v

/-- Makes listener `i` record the changes of the window. -/
def subscribe (v : View) (i : Nat) : View :=
  let (c, id) := v.canvas.subscribe i
  { v with canvas := c, subscription := some id }

/-- Gives up the listener. -/
def unsubscribe (v : View) : View :=
  match v.subscription with
  | none => v
  | some id => { v with canvas := v.canvas.unsubscribe id, subscription := none }

end View

end MarketChart
