import MarketChart.Canvas.Series
import MarketChart.Failure
import MarketChart.Window

/-!
# Canvases

A canvas holds series under ids, the window on view, and the listeners that are told when the
window changes. Series and subscriptions draw their ids from one counter. A canvas that has been
removed stays so; it holds nothing and refuses everything but subscriptions.

Telling the listeners is a round: `Canvas.startRound` takes them off the canvas, they are called
one after the other, and `Canvas.endRound` puts them back, except those that were unsubscribed in
between, in front of those that came in between. What a listener does when it is called is up to
the owner of the canvas, so the type of listeners is a parameter.
-/

namespace MarketChart

/-- A canvas with listeners of type `L`. -/
structure Canvas (L : Type) where
  container : String
  width : Nat
  height : Nat
  /-- The series by id; ids increase. -/
  series : List (Nat × Series) := []
  window : Option Window := none
  /-- The listeners by the id of their subscription. -/
  listeners : List (Nat × L) := []
  /-- A round of calls is going on. -/
  dispatching : Bool := false
  /-- The subscriptions given up during the round. -/
  unsubscribed : List Nat := []
  removed : Bool := false
  /-- The canvas refuses windows. -/
  rejecting : Bool := false
  /-- How many windows were set. -/
  updates : Nat := 0
  nextId : Nat := 1
deriving Inhabited

namespace Canvas

variable {L : Type}

/-- Distinct times in increasing order. -/
def distinctTimes (times : List Int) : List Int :=
  (times.mergeSort fun a b => a ≤ b).eraseReps

/-- The time axis: the distinct times of all series. The position of a time is its logical index. -/
def timeScale (c : Canvas L) : List Int :=
  distinctTimes (c.series.flatMap fun e => e.2.data.times)

/-- The series of an id. -/
def series? (c : Canvas L) (id : Nat) : Option Series := c.series.lookup id

/-- The canvas itself, unless it has been removed. -/
def alive (c : Canvas L) : Except Cause (Canvas L) :=
  if c.removed then .error (.viewRemoved c.container) else .ok c

/-- The canvas itself, if it is there and holds a series. -/
def holding (c : Canvas L) (id : Nat) : Except Cause (Canvas L) :=
  if c.removed then .error (.viewRemoved c.container)
  else if (c.series? id).isNone then .error (.seriesNotFound id c.container)
  else .ok c

/-! ## Series -/

/-- Adds a series without data and gives its id. -/
def addSeries (c : Canvas L) (kind : SeriesKind) : Except Cause (Canvas L × Nat) :=
  c.alive.map fun c =>
    ({ c with series := c.series ++ [(c.nextId, .ofKind kind)], nextId := c.nextId + 1 }, c.nextId)

/-- Replaces the data of a series. -/
def setData (c : Canvas L) (id : Nat) (data : SeriesData) : Except Cause (Canvas L) :=
  (c.holding id).map fun c =>
    { c with series := c.series.map fun e => if e.1 = id then (e.1, { e.2 with data }) else e }

/-- Removes a series. -/
def removeSeries (c : Canvas L) (id : Nat) : Except Cause (Canvas L) :=
  (c.holding id).map fun c => { c with series := c.series.filter (·.1 ≠ id) }

/-! ## Listeners -/

/-- Adds a listener and gives the id of its subscription. -/
def subscribe (c : Canvas L) (listener : L) : Canvas L × Nat :=
  ({ c with listeners := c.listeners ++ [(c.nextId, listener)], nextId := c.nextId + 1 }, c.nextId)

/-- Gives up a subscription; during a round that is kept in mind for its end. -/
def unsubscribe (c : Canvas L) (id : Nat) : Canvas L :=
  { c with
    listeners := c.listeners.filter (·.1 ≠ id)
    unsubscribed := if c.dispatching then c.unsubscribed ++ [id] else c.unsubscribed }

/-- Begins a round: the listeners are taken off the canvas. -/
def startRound (c : Canvas L) : Canvas L :=
  { c with dispatching := true, listeners := [] }

/-- Ends a round: the listeners that were called come back, unless the canvas was removed. -/
def endRound (called : List (Nat × L)) (c : Canvas L) : Canvas L :=
  { c with
    dispatching := false
    unsubscribed := []
    listeners :=
      if c.removed then []
      else called.filter (fun l => !c.unsubscribed.contains l.1) ++ c.listeners }

/-! ## The window -/

/-- Sets the window; the listeners have yet to be told. -/
def setWindow (c : Canvas L) (w : Window) : Except Cause (Canvas L) :=
  if c.removed then .error (.viewRemoved c.container)
  else if c.rejecting then .error (.windowRejected c.container)
  else .ok { c with window := some w, updates := c.updates + 1 }

/-- Sets the window to all bars; the listeners have yet to be told. `none` for a canvas without
bars, which stays as it is. -/
def fit (c : Canvas L) : Except Cause (Option (Canvas L)) :=
  c.alive.map fun c =>
    let bars := c.timeScale.length
    if bars = 0 then none else some { c with window := some (.ofBars bars) }

/-! ## The rest -/

/-- Makes the canvas refuse windows, or accept them again. -/
def reject (c : Canvas L) (on : Bool) : Canvas L := { c with rejecting := on }

/-- Sets the width. -/
def setWidth (c : Canvas L) (width : Nat) : Except Cause (Canvas L) :=
  c.alive.map fun c => { c with width }

/-- Removes the canvas with all it holds. -/
def remove (c : Canvas L) : Canvas L :=
  { c with removed := true, listeners := [], series := [] }

end Canvas

end MarketChart
