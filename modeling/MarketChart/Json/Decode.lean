import MarketChart.Json.Basic
import MarketChart.Number.Decimal

/-!
# Reading and building values of other types

A decoder is a function `Json → Option α`; `none` is a refusal. A record is accepted as an object
with its field names or as an array of its fields in the order they are declared
(`Json.record?`); fields that a type does not declare are not looked at. The second half of the
file goes the other way.
-/

namespace MarketChart.Json

/-! ## Plain values -/

/-- A truth value. -/
def bool? : Json → Option Bool
  | .bool b => some b
  | _ => none

/-- A text. -/
def text? : Json → Option String
  | .str s => some s
  | _ => none

/-- An integer literal between two bounds. -/
def intBetween? (low high : Int) : Json → Option Int
  | .int n => if low ≤ n && n ≤ high then some n else none
  | _ => none

/-- An integer that a signed 64-bit word holds. -/
def int64? : Json → Option Int := intBetween? (-9223372036854775808) 9223372036854775807

/-- A natural number below a bound. -/
def natBelow? (bound : Nat) (v : Json) : Option Nat :=
  (intBetween? 0 (bound - 1) v).map Int.toNat

/-- Any number, as the double nearest to it. -/
def float? : Json → Option Float
  | .int n => some (Float.ofInt n)
  | .float x => some x
  | _ => none

/-- A number, or a text that denotes one. Texts may denote infinities and not-a-number. -/
def number? : Json → Option Float
  | .str s => Number.ofText? s
  | v => v.float?

/-! ## Values that may be absent -/

/-- `null` for an absent value. -/
def nullable? {α : Type} (decode : Json → Option α) : Json → Option (Option α)
  | .null => some none
  | v => (decode v).map some

/-- Any value at all, kept as it is; `null` is an absent one. -/
def raw? (v : Json) : Option (Option Json) :=
  if v.sound then
    match v with
    | .null => some none
    | v => some (some v.normal)
  else none

/-- A sample: what is neither a number nor the text of one counts as absent. -/
def lenient? (v : Json) : Option (Option Float) :=
  v.raw?.map fun value => value.bind number?

/-! ## Collections -/

/-- An array of values of one type. -/
def list? {α : Type} (decode : Json → Option α) : Json → Option (List α)
  | .arr items => items.mapM decode
  | _ => none

/-- An object whose values are of one type; of several entries of one name the last counts. -/
def map? {α : Type} (decode : Json → Option α) : Json → Option (KeyMap α)
  | .obj entries =>
    (entries.mapM fun e => (decode e.2).map fun v => (e.1, v)).map KeyMap.ofList
  | _ => none

/-! ## Records -/

/-- The fields of a record that are present, by name. -/
abbrev Fields := List (String × Json)

/-- The fields of a record. An object gives them by name, and may give none twice; an array gives
them in the order they are declared, and may be short but not long. -/
def record? (declared : List String) : Json → Option Fields
  | .arr items => if items.length ≤ declared.length then some (declared.zip items) else none
  | .obj entries =>
    let known := entries.filter fun e => declared.contains e.1
    if (known.map (·.1)).Nodup then some known else none
  | _ => none

/-- A record one of whose fields has a second name. -/
def renamed (second first : String) : Json → Json
  | .obj entries => .obj (entries.map fun e => (if e.1 == second then first else e.1, e.2))
  | v => v

namespace Fields

/-- A field that has to be present. -/
def required {α : Type} (fields : Fields) (name : String) (decode : Json → Option α) : Option α :=
  (fields.lookup name).bind decode

/-- A field with a value for its absence. -/
def withDefault {α : Type} (fields : Fields) (name : String) (decode : Json → Option α)
    (default : α) : Option α :=
  match fields.lookup name with
  | none => some default
  | some v => decode v

/-- A field that may be missing or `null`. -/
def optional {α : Type} (fields : Fields) (name : String) (decode : Json → Option α) :
    Option (Option α) :=
  fields.withDefault name (nullable? decode) none

end Fields

/-- One of several names: the name itself, or an object with that one name and `null`. -/
def choice? {α : Type} (options : List (String × α)) : Json → Option α
  | .str s => options.lookup s
  | .obj [(s, .null)] => options.lookup s
  | _ => none

/-! ## Building trees -/

/-- A double; the notation has no form for infinities and not-a-number. -/
def ofFloat (x : Float) : Json := if x.isFinite then .float x else .null

/-- An optional value, `null` when absent. -/
def ofOption {α : Type} (encode : α → Json) : Option α → Json
  | none => .null
  | some a => encode a

/-- An optional field that is left out when absent. -/
def ofPresent {α : Type} (name : String) (encode : α → Json) : Option α → List (String × Json)
  | none => []
  | some a => [(name, encode a)]

/-- A list. -/
def ofList {α : Type} (encode : α → Json) (items : List α) : Json :=
  .arr (items.map encode)

/-- A map by name. -/
def ofMap {α : Type} (encode : α → Json) (m : KeyMap α) : Json :=
  .obj (m.entries.map fun e => (e.1, encode e.2))

end MarketChart.Json
