import MarketChart.Json.Decode

/-!
# Overrides

A strategy may move an indicator to another pane or restyle it. An override is the bare name of a
pane, or a record of fields.
-/

namespace MarketChart

/-- The fields of a detailed override. -/
structure OverrideFields where
  pane : Option String := none
  style : Option String := none
  color : Option String := none
  lineWidth : Option Float := none
deriving DecidableEq, Inhabited

namespace OverrideFields

/-- Reads the fields of an override. -/
def decode? (v : Json) : Option OverrideFields := do
  let fields ← v.record? ["pane", "style", "color", "lineWidth"]
  return {
    pane := ← fields.optional "pane" Json.text?
    style := ← fields.optional "style" Json.text?
    color := ← fields.optional "color" Json.text?
    lineWidth := ← fields.optional "lineWidth" Json.float? }

/-- Writes the fields of an override. -/
def encode (f : OverrideFields) : Json :=
  .obj [("pane", .ofOption .str f.pane), ("style", .ofOption .str f.style),
    ("color", .ofOption .str f.color), ("lineWidth", .ofOption .ofFloat f.lineWidth)]

end OverrideFields

/-- What a strategy changes about an indicator. -/
inductive Override where
  | pane (name : String)
  | detailed (fields : OverrideFields)
deriving DecidableEq, Inhabited

namespace Override

/-- The pane that the override names; an empty name names none. -/
def paneName (o : Override) : Option String :=
  match o with
  | .pane name => some name |>.filter (· ≠ "")
  | .detailed fields => fields.pane.filter (· ≠ "")

/-- The fields of a detailed override. -/
def fields : Override → Option OverrideFields
  | .pane _ => none
  | .detailed fields => some fields

/-- Reads an override. The whole of it is taken in before its form is known, so nothing in it may
be broken, not even in fields that are not looked at. -/
def decode? (v : Json) : Option Override :=
  if v.sound then
    match v with
    | .str name => some (.pane name)
    | v => (OverrideFields.decode? v).map .detailed
  else none

/-- Writes an override. -/
def encode : Override → Json
  | .pane name => .str name
  | .detailed fields => fields.encode

end Override

/-- The overrides of a strategy by indicator. -/
abbrev Overrides := KeyMap Override

/-- The document that holds the overrides of a strategy. -/
structure StrategyConfig where
  indicators : Option Overrides := none
deriving Inhabited

namespace StrategyConfig

/-- Reads a strategy's document. -/
def decode? (v : Json) : Option StrategyConfig := do
  let fields ← v.record? ["indicators"]
  return ⟨← fields.optional "indicators" (Json.map? Override.decode?)⟩

/-- Writes a strategy's document. -/
def encode (c : StrategyConfig) : Json :=
  .obj [("indicators", .ofOption (.ofMap Override.encode) c.indicators)]

end StrategyConfig

end MarketChart
