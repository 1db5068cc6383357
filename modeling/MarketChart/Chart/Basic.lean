import MarketChart.Chart.Stage
import MarketChart.Source.Feed

/-!
# Charts

A chart loads a document from its feed, draws the plan of it on fresh panes, and from then on
moves, zooms and resizes them. `Chart.refresh` starts over from nothing.
-/

namespace MarketChart

/-- A chart. -/
structure Chart where
  settings : Settings
  panes : Panes := {}
  router : Router := .empty
  /-- What is shown, once a document has been loaded. -/
  loaded : Option LoadedChart := none
  width : Nat := settings.containerWidth
  /-- How many loads were tried. -/
  loads : Nat := 0
  /-- The strategies whose overrides were asked for. -/
  asked : List String := []
deriving Inhabited

namespace Chart

/-- A chart before its first load. -/
def new (settings : Settings) : Chart := { settings }

/-- Loads the next document of a feed and draws it. Bad data are left out; the load fails only if
there is no document or it cannot be drawn. -/
def load (feed : Feed) (c : Chart) : Chart × Except Failure Unit :=
  let delivery := feed c.loads
  let c := { c with loads := c.loads + 1 }
  match delivery.document with
  | .error f => (c, .error (f.within .loadingDocument))
  | .ok document =>
    let strategy := document.metadata.strategyName
    let c := { c with asked := c.asked ++ [strategy] }
    let plan := Plan.build c.settings (delivery.overrides strategy) document
    match plan.draw c.width ⟨c.panes, c.router⟩ with
    | (stage, some f) => ({ c with panes := stage.panes, router := stage.router }, .error f)
    | (stage, none) =>
      ({ c with panes := stage.panes, router := stage.router, loaded := some plan.loaded }, .ok ())

/-- Removes all panes and loads again. -/
def refresh (feed : Feed) (c : Chart) : Chart × Except Failure Unit :=
  load feed { c with panes := c.panes.teardown, router := .empty, loaded := none }

/-- The boundary of a frame; gives how many views took a window. -/
def onFrame (c : Chart) : Chart × Nat :=
  let (panes, n) := c.panes.onFrame
  ({ c with panes }, n)

/-- Sets the width of all views. -/
def resize (c : Chart) (width : Nat) : Chart :=
  if width = c.width then c else { c with width, panes := c.panes.resize width }

/-- Fits all views to their content. -/
def fitContent (c : Chart) : Chart := { c with panes := c.panes.fitContent }

/-- Changes the window of a pane. A pane that is not there, or has no window, is left alone. -/
def updateWindow (c : Chart) (pane : String) (f : Window → Window) : Chart × Except Failure Unit :=
  match c.panes.view? pane with
  | none => (c, .ok ())
  | some v =>
    match v.canvas.window with
    | none => (c, .ok ())
    | some w =>
      match c.panes.setWindow v (f w) with
      | .ok panes => ({ c with panes }, .ok ())
      | .error cause => (c, .error ⟨[.updatingWindow pane], cause⟩)

/-- Moves the window of a pane by a number of bars. -/
def pan (c : Chart) (pane : String) (bars : Float) : Chart × Except Failure Unit :=
  c.updateWindow pane (·.shifted bars)

/-- Zooms the window of a pane. -/
def zoom (c : Chart) (pane : String) (factor : Float) : Chart × Except Failure Unit :=
  c.updateWindow pane (·.zoomed factor)

end Chart

end MarketChart
