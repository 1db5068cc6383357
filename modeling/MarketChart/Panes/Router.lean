import MarketChart.Chart.Style
import MarketChart.Panes.Basic

/-!
# Routing series to panes

The router knows under which id and on which pane the series of each indicator lives.
-/

namespace MarketChart

/-- A series on a pane. -/
structure Handle where
  pane : String
  id : Nat
deriving DecidableEq, Inhabited

/-- The series of the indicators. -/
abbrev Router := KeyMap Handle

namespace Router

/-- Adds the series of an indicator to its pane. There is no handle when there is no such pane. -/
def route (r : Router) (p : Panes) (key : String) (c : SeriesConfig) :
    Except Failure (Router × Panes × Option Handle) :=
  match p.view? c.paneName with
  | none => .ok (r, p, none)
  | some v =>
    (inContext (.addingSeries key c.paneName) (v.addSeries p.faults c.seriesKind)).map
      fun (v, id) =>
        let handle : Handle := ⟨c.paneName, id⟩
        (r.insert key handle, p.put v, some handle)

/-- What moving a series leaves behind. -/
structure Moved where
  router : Router
  panes : Panes
  config : SeriesConfig
  result : Except Failure (Option Handle)

/-- Takes a series off the pane it is on; a pane that is gone has nothing to take off. -/
def detach (p : Panes) (key : String) (old : Handle) : Except Failure Panes :=
  match p.view? old.pane with
  | none => .ok p
  | some v =>
    (inContext (.removingSeries key old.pane) (v.removeSeries p.faults old.id)).map p.put

/-- Moves the series of an indicator to another pane. A series that was never routed is not
moved. -/
def reroute (r : Router) (p : Panes) (key pane : String) (c : SeriesConfig) : Moved :=
  match r.find? key with
  | none => ⟨r, p, c, .ok none⟩
  | some old =>
    match detach p key old with
    | .error f => ⟨r, p, c, .error f⟩
    | .ok p =>
      let r := r.erase key
      let c := { c with pane := some pane }
      match route r p key c with
      | .error f => ⟨r, p, c, .error f⟩
      | .ok (r, p, handle) => ⟨r, p, c, .ok handle⟩

end Router

end MarketChart
