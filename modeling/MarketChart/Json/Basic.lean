import MarketChart.KeyMap

/-!
# JSON trees

A tree keeps what the notation distinguishes: integers apart from other numbers, and the entries
of an object in the order they stand, repeated names included. A literal that is well-formed but
denotes nothing, such as a number beyond the range of doubles, is kept as `Json.broken`: it may
stand where nobody looks at it and nowhere else.

`Json.sound` says that no part of a tree is broken, and `Json.normal` is the value that a tree
denotes: objects list their names once, by increasing order, and the last entry of a name counts.
-/

namespace MarketChart

/-- A JSON tree. -/
inductive Json where
  | null
  | bool (b : Bool)
  /-- An integer literal. -/
  | int (n : Int)
  /-- Any other number. -/
  | float (x : Float)
  | str (s : String)
  | arr (items : List Json)
  | obj (entries : List (String × Json))
  /-- A literal that denotes no value: a number beyond the doubles, a text with an unpaired
  surrogate, an object with such a name, or brackets nested too deep. -/
  | broken
deriving Inhabited

namespace Json

mutual

/-- No part of the tree is broken. -/
def sound : Json → Bool
  | .arr items => soundItems items
  | .obj entries => soundEntries entries
  | .broken => false
  | _ => true

/-- `sound` for the items of an array. -/
def soundItems : List Json → Bool
  | [] => true
  | v :: rest => v.sound && soundItems rest

/-- `sound` for the entries of an object. -/
def soundEntries : List (String × Json) → Bool
  | [] => true
  | (_, v) :: rest => v.sound && soundEntries rest

end

mutual

/-- The value that a tree denotes: every object lists each name once, by increasing order, with
the last of its values. -/
def normal : Json → Json
  | .arr items => .arr (normalItems items)
  | .obj entries => .obj (KeyMap.ofList (normalEntries entries)).entries
  | v => v

/-- `normal` for the items of an array. -/
def normalItems : List Json → List Json
  | [] => []
  | v :: rest => v.normal :: normalItems rest

/-- `normal` for the entries of an object. -/
def normalEntries : List (String × Json) → List (String × Json)
  | [] => []
  | (k, v) :: rest => (k, v.normal) :: normalEntries rest

end

/-- The entry of an object under a name; `null` where there is none. -/
def get (v : Json) (name : String) : Json :=
  match v with
  | .obj entries => (entries.lookup name).getD .null
  | _ => .null

end Json

end MarketChart
