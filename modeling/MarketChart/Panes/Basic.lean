import MarketChart.Panes.View
import MarketChart.Placement.Basic

/-!
# Panes

The views of a chart: the main one first, then the auxiliary ones in the order they were made.
A change of the window of one view is passed on to the others at the next frame
(`Panes.onFrame`).
-/

namespace MarketChart

/-- The views of a chart. -/
structure Panes where
  /-- The main view, if there is one, and then the auxiliary ones. -/
  views : List View := []
  sync : Sync := {}
  faults : List Fault := []
  /-- How many views were made. -/
  made : Nat := 0
  /-- The canvases of the views that were torn down. -/
  closed : List (Canvas Nat) := []
deriving Inhabited

namespace Panes

/-! ## Looking up -/

/-- The view of a name. -/
def view? (p : Panes) (name : String) : Option View := p.views.find? (·.name == name)

/-- The names of the views. -/
def names (p : Panes) : List String := p.views.map View.name

/-- The containers of the views. -/
def containers (p : Panes) : List Container := p.views.map View.container

/-- The views whose canvas has not been removed, in the order they were made. -/
def living (p : Panes) : List View :=
  (p.views.filter (!·.canvas.removed)).mergeSort fun a b => a.serial ≤ b.serial

/-- The first living view in a container. -/
def viewIn? (p : Panes) (container : String) : Option View :=
  p.living.find? (·.canvas.container == container)

/-- A window waits for the next frame. -/
def hasPending (p : Panes) : Bool := p.sync.pending.isSome

/-- Puts a view in the place of the one it came from. -/
def put (p : Panes) (v : View) : Panes :=
  { p with views := p.views.map fun u => if u.serial = v.serial then v else u }

/-! ## Making views -/

/-- A new view. -/
def newView (p : Panes) (name : String) (container : Container) (height : Nat) : View where
  name := name
  container := container
  canvas := { container := container.id, width := container.width, height }
  serial := p.made

/-- Whether a view cannot be made in a container. -/
def refuses (p : Panes) (container : Container) : Bool :=
  p.faults.contains ⟨.create, container.id⟩

/-- Makes the main view. -/
def createMain (p : Panes) (container : Container) (height : Nat) : Except Failure Panes :=
  if p.names.contains mainPane then .error ⟨[], .mainExists⟩
  else if p.refuses container then .error ⟨[.creatingMain], .injected .create⟩
  else .ok { p with
    views := p.newView mainPane container height :: p.views
    made := p.made + 1 }

/-- The container of an auxiliary view; it is as wide as the main one. -/
def auxiliaryContainer (p : Panes) (name : String) : Container where
  id := name ++ "-chart"
  width := ((p.view? mainPane).map (·.container.width)).getD 0

/-- Makes an auxiliary view. -/
def createAuxiliary (p : Panes) (name : String) (height : Nat) : Except Failure Panes :=
  let container := p.auxiliaryContainer name
  if name = mainPane ∨ p.names.contains name then .error ⟨[], .paneExists name⟩
  else if p.refuses container then .error ⟨[.creatingPane name], .injected .create⟩
  else .ok { p with
    views := p.views ++ [p.newView name container height]
    made := p.made + 1 }

/-! ## Passing windows on -/

/-- Gives up the listeners of all views. -/
def unsubscribeAll (p : Panes) : Panes := { p with views := p.views.map View.unsubscribe }

/-- Makes every view record its changes under its position. -/
def synchronize (p : Panes) : Panes :=
  { p with views := (p.views.map View.unsubscribe).mapIdx fun i v => v.subscribe i }

/-- Gives a window to the views at position `i` and after, except the source. Gives the views, the
state of passing on, and how many views took the window. -/
def passOn (faults : List Fault) (pending : Pending) :
    Nat → List View → Sync → List View × Sync × Nat
  | _, [], s => ([], s, 0)
  | i, v :: rest, s =>
    if i = pending.source then
      let (rest, s, n) := passOn faults pending (i + 1) rest s
      (v :: rest, s, n)
    else
      match v.setWindow faults pending.window s with
      | .ok (v, s) =>
        let (rest, s, n) := passOn faults pending (i + 1) rest s
        (v :: rest, s, n + 1)
      | .error _ =>
        let (rest, s, n) := passOn faults pending (i + 1) rest s
        (v :: rest, s, n)

/-- The boundary of a frame: passes a waiting window on, and gives how many views took it. A view
that does not take it is left as it is. -/
def onFrame (p : Panes) : Panes × Nat :=
  match p.sync.pending with
  | none => (p, 0)
  | some pending =>
    let (views, s, n) := passOn p.faults pending 0 p.views { p.sync with pending := none }
    ({ p with views, sync := { s with updating := false } }, n)

/-! ## All views at once -/

/-- Fits each of a list of views; one that fails is left as it is. -/
def fitViews (faults : List Fault) : List View → Sync → List View × Sync
  | [], s => ([], s)
  | v :: rest, s =>
    let (v, s) := match v.fit faults s with
      | .ok (v, s) => (v, s)
      | .error _ => (v, s)
    let (rest, s) := fitViews faults rest s
    (v :: rest, s)

/-- Fits every view to its content. -/
def fitContent (p : Panes) : Panes :=
  let (views, sync) := fitViews p.faults p.views p.sync
  { p with views, sync }

/-- Sets the width of every view. -/
def resize (p : Panes) (width : Nat) : Panes :=
  { p with views := p.views.map (·.resize p.faults width) }

/-- Removes every view. -/
def teardown (p : Panes) : Panes :=
  { p with
    views := []
    sync := {}
    closed := p.closed ++ p.views.map fun v => v.unsubscribe.canvas.remove }

/-! ## One view -/

/-- Sets the window of a view. -/
def setWindow (p : Panes) (v : View) (w : Window) : Except Cause Panes :=
  (v.setWindow p.faults w p.sync).map fun (v, sync) => { p.put v with sync }

/-- Fits a view to its content. -/
def fitView (p : Panes) (v : View) : Except Cause Panes :=
  (v.fit p.faults p.sync).map fun (v, sync) => { p.put v with sync }

/-- Sets the window of the canvas of a view, as a user does who scrolls it. -/
def scroll (p : Panes) (v : View) (w : Window) : Except Cause Panes :=
  (v.canvas.scroll w p.sync).map fun (c, sync) => { p.put (v.withCanvas c) with sync }

/-- Makes the canvas of a view refuse windows, or accept them again. -/
def reject (p : Panes) (v : View) (on : Bool) : Panes := p.put (v.withCanvas (v.canvas.reject on))

/-- Makes an operation fail in a container, or work again. -/
def setFault (p : Panes) (fault : Fault) (on : Bool) : Panes :=
  { p with faults := if on then fault :: p.faults else p.faults.filter (· ≠ fault) }

end Panes

end MarketChart
