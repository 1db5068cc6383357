import MarketChart.Window

/-!
# Passing windows on

When the window of one view changes, the other views follow at the next frame. `Sync` is what is
remembered in between: the view that changed first and the last window it took. Changes of other
views meanwhile, among them those that the passing-on itself causes, are not recorded.
-/

namespace MarketChart

/-- A window that waits for the next frame, and the view it comes from. -/
structure Pending where
  source : Nat
  window : Window
deriving DecidableEq, Inhabited

/-- The state of passing windows on. -/
structure Sync where
  /-- A change has been recorded and is not passed on yet. -/
  updating : Bool := false
  pending : Option Pending := none
deriving DecidableEq, Inhabited

/-- Records that the window of a view changed. -/
def Sync.record (s : Sync) (source : Nat) (w : Option Window) : Sync :=
  match w with
  | none => s
  | some w =>
    match s.pending with
    | some p => if p.source = source then { s with pending := some ⟨source, w⟩ } else s
    | none => if s.updating then s else ⟨true, some ⟨source, w⟩⟩

end MarketChart
