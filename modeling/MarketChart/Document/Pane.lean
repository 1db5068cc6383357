import MarketChart.Json.Decode

/-!
# Pane settings

The height that a document or the settings give to a pane.
-/

namespace MarketChart

/-- The height of a pane, and whether it stays as it is. -/
structure PaneConfig where
  height : Nat
  fixed : Bool := false
deriving DecidableEq, Inhabited

namespace PaneConfig

/-- Reads the settings of a pane; heights are below 65536. -/
def decode? (v : Json) : Option PaneConfig := do
  let fields ← v.record? ["height", "fixed"]
  return {
    height := ← fields.required "height" (Json.natBelow? (Nat.pow 2 16))
    fixed := ← fields.withDefault "fixed" Json.bool? false }

/-- Writes the settings of a pane. -/
def encode (c : PaneConfig) : Json :=
  .obj [("height", .int c.height), ("fixed", .bool c.fixed)]

end PaneConfig

/-- What a document says about panes. -/
structure UiConfig where
  panes : KeyMap PaneConfig := .empty
deriving Inhabited

namespace UiConfig

/-- Reads what a document says about panes. -/
def decode? (v : Json) : Option UiConfig := do
  let fields ← v.record? ["panes"]
  return ⟨← fields.withDefault "panes" (Json.map? PaneConfig.decode?) .empty⟩

/-- Writes what a document says about panes. -/
def encode (c : UiConfig) : Json := .obj [("panes", .ofMap PaneConfig.encode c.panes)]

end UiConfig

end MarketChart
