import MarketChart.Chart.Plan
import MarketChart.Panes.Router

/-!
# Drawing a plan

A plan is drawn step by step: the panes are made, the candles go on the main one, and the series
of every indicator goes on its own. A step that fails ends the drawing and leaves what was done
before it; when all went well the panes are synchronised and fitted to their content.
-/

namespace MarketChart

/-- The container of the main view. -/
def mainContainer : String := "main-chart"

/-- The panes and the router while a plan is drawn. -/
structure Stage where
  panes : Panes := {}
  router : Router := .empty
deriving Inhabited

namespace Stage

/-- A step of drawing: the stage after it, and why it failed if it did. -/
abbrev Step := Stage → Stage × Option Failure

/-- Runs steps in turn up to the first that fails. -/
def inTurn : List Step → Step
  | [], s => (s, none)
  | step :: rest, s =>
    match step s with
    | (s, none) => inTurn rest s
    | (s, some f) => (s, some f)

/-- Puts a view in the place of the one it came from. -/
def put (s : Stage) (v : View) : Stage := { s with panes := s.panes.put v }

/-- Changes the panes, or fails and changes nothing. -/
def onPanes (f : Panes → Except Failure Panes) : Step := fun s =>
  match f s.panes with
  | .ok panes => ({ s with panes }, none)
  | .error f => (s, some f)

/-- Makes the main pane. -/
def createMain (width height : Nat) : Step :=
  onPanes (·.createMain ⟨mainContainer, width⟩ height)

/-- Makes an auxiliary pane. -/
def createAuxiliary (name : String) (height : Nat) : Step :=
  onPanes (·.createAuxiliary name height)

/-- Puts candles on the main pane. -/
def drawCandles (candles : List Candle) : Step := fun s =>
  match s.panes.view? mainPane with
  | none => (s, some ⟨[], .mainMissing⟩)
  | some v =>
    match v.addSeries s.panes.faults (.candlestick {}) with
    | .error cause => (s, some ⟨[.addingCandles], cause⟩)
    | .ok (v, id) =>
      let s := s.put v
      match v.setData s.panes.faults id (.candles candles) with
      | .error cause => (s, some ⟨[.loadingCandles], cause⟩)
      | .ok v => (s.put v, none)

/-- Puts points on a series that was routed; without points the series is left empty. -/
def drawPoints (key : String) (handle : Handle) (points : List RenderPoint) : Step := fun s =>
  if points.isEmpty then (s, none)
  else
    match s.panes.view? handle.pane with
    | none => (s, some ⟨[], .paneDisappeared handle.pane⟩)
    | some v =>
      match v.setData s.panes.faults handle.id (.points points) with
      | .error cause => (s, some ⟨[.loadingSeries key], cause⟩)
      | .ok v => (s.put v, none)

/-- Puts the series of an indicator on its pane. -/
def drawSeries (key : String) (planned : PlannedSeries) : Step := fun s =>
  match Router.route s.router s.panes key planned.config with
  | .error f => (s, some f)
  | .ok (router, panes, none) => ({ s with router, panes }, none)
  | .ok (router, panes, some handle) =>
    drawPoints key handle planned.points { s with router, panes }

end Stage

namespace Plan

/-- The steps in which a plan is drawn. -/
def steps (p : Plan) (width : Nat) : List Stage.Step :=
  Stage.createMain width p.layout.main.height ::
    p.layout.auxiliary.map (fun (name, config) => Stage.createAuxiliary name config.height) ++
    Stage.drawCandles p.candles :: p.series.entries.map fun (key, s) => Stage.drawSeries key s

/-- Draws a plan. -/
def draw (p : Plan) (width : Nat) : Stage.Step := fun s =>
  match Stage.inTurn (p.steps width) s with
  | (s, none) => ({ s with panes := s.panes.synchronize.fitContent }, none)
  | (s, some f) => (s, some f)

end Plan

end MarketChart
