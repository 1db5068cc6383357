import MarketChart.Json.Basic
import MarketChart.Number.Decimal
import MarketChart.Text.Hex

/-!
# Reading JSON text

`Json.read?` reads a whole text as one tree. It works in two passes, each a plain recursion along
its input: `Json.Token.scan?` cuts the characters into tokens, and `Json.Frame` is the stack of
unfinished containers on which `Json.Machine.step?` builds the tree token by token.

The notation is strict: no comments, no trailing commas, no blanks but space, tab and line ends,
no control characters in texts. Literals that are well-formed and denote nothing become
`Json.broken`, as do containers below the deepest level that is read.
-/

namespace MarketChart.Json

/-- Containers may be nested this deep. -/
def maxDepth : Nat := 127

/-! ## Tokens -/

/-- A token of the notation. -/
inductive Token where
  | openArray
  | closeArray
  | openObject
  | closeObject
  | colon
  | comma
  /-- A text, or `none` for one with an unpaired surrogate. -/
  | text (s : Option String)
  /-- A number or one of the names `null`, `true` and `false`. -/
  | scalar (v : Json)

namespace Token

/-- An integer with its sign: kept as an integer where 64 bits hold it, else as a double. The
integer `-0` is the double. -/
def ofInteger (negative : Bool) (n : Numeral) : Json :=
  let m := Numeral.digitsValue n.whole
  if negative && m == 0 then .float (-0.0)
  else if negative && m ≤ Nat.pow 2 63 then .int (-m)
  else if !negative && m < Nat.pow 2 64 then .int m
  else
    let x := n.toFloat
    if x.isFinite then .float (if negative then -x else x) else .broken

/-- A number token: no leading zeros, digits on both sides of a point. -/
def ofNumber? (cs : List Char) : Option Token :=
  let (negative, cs) := match cs with
    | '-' :: rest => (true, rest)
    | _ => (false, cs)
  (Numeral.read? cs).bind fun n =>
    let leadingZero := n.whole.head? == some '0' && 1 < n.whole.length
    if n.whole.isEmpty || leadingZero || n.fraction == some [] then none
    else if n.fraction.isNone && n.exponent.isNone then some (.scalar (ofInteger negative n))
    else
      let x := n.toFloat
      some (.scalar (if x.isFinite then .float (if negative then -x else x) else .broken))

/-- The token of a run of letters, digits, points and signs. -/
def ofWord? (cs : List Char) : Option Token :=
  match String.ofList cs with
  | "null" => some (.scalar .null)
  | "true" => some (.scalar (.bool true))
  | "false" => some (.scalar (.bool false))
  | _ => ofNumber? cs

/-- A text being read: its characters so far in reverse, whether every surrogate found its
partner, and the first half of a pair that waits for the second. -/
structure Reading where
  read : List Char := []
  paired : Bool := true
  high : Option Nat := none

/-- What the scanner is in the middle of; a word stands in reverse. -/
inductive Mode where
  | between
  | word (read : List Char)
  | text (t : Reading)

/-- The characters of numbers and names. -/
def isWordChar (c : Char) : Bool :=
  c.isAlphanum || c == '-' || c == '+' || c == '.'

/-- What a character between tokens starts: a token of its own, or a longer one. -/
def enter? (c : Char) : Option (List Token × Mode) :=
  match c with
  | ' ' | '\t' | '\n' | '\r' => some ([], .between)
  | '[' => some ([.openArray], .between)
  | ']' => some ([.closeArray], .between)
  | '\x7b' => some ([.openObject], .between)
  | '\x7d' => some ([.closeObject], .between)
  | ':' => some ([.colon], .between)
  | ',' => some ([.comma], .between)
  | '"' => some ([], .text {})
  | c => if isWordChar c then some ([], .word [c]) else none

/-- The code unit of four hexadecimal digits. -/
def unit? (a b c d : Char) : Option Nat := do
  let a ← Text.hexDigit? a
  let b ← Text.hexDigit? b
  let c ← Text.hexDigit? c
  let d ← Text.hexDigit? d
  return ((a * 16 + b) * 16 + c) * 16 + d

/-- Units of the first half of a pair. -/
def isHigh (u : Nat) : Bool := 0xd800 ≤ u && u < 0xdc00

/-- Units of the second half of a pair. -/
def isLow (u : Nat) : Bool := 0xdc00 ≤ u && u < 0xe000

/-- The character of a pair of units. -/
def ofPair (high low : Nat) : Char :=
  Char.ofNat (0x10000 + (high - 0xd800) * 0x400 + (low - 0xdc00))

namespace Reading

/-- One more character. -/
def char (t : Reading) (c : Char) : Reading :=
  ⟨c :: t.read, t.paired && t.high.isNone, none⟩

/-- One more code unit on its own. -/
def unit (t : Reading) (u : Nat) : Reading :=
  if isHigh u then { t with paired := t.paired && t.high.isNone, high := some u }
  else if isLow u then { t with paired := false, high := none }
  else t.char (Char.ofNat u)

/-- One more code unit, which may be the second half of a pair. -/
def escaped (t : Reading) (u : Nat) : Reading :=
  match t.high with
  | some h => if isLow u then ⟨ofPair h u :: t.read, t.paired, none⟩ else t.unit u
  | none => t.unit u

/-- The text, unless it has an unpaired surrogate. -/
def finish (t : Reading) : Option String :=
  if t.paired && t.high.isNone then some (String.ofList t.read.reverse) else none

end Reading

/-- The character that a one-letter escape stands for. -/
def escape? (c : Char) : Option Char :=
  match c with
  | '"' => some '"'
  | '\\' => some '\\'
  | '/' => some '/'
  | 'b' => some '\x08'
  | 'f' => some '\x0c'
  | 'n' => some '\n'
  | 'r' => some '\r'
  | 't' => some '\t'
  | _ => none

/-- Cuts characters into tokens, which are gathered in reverse; `none` where the notation is not
kept. -/
def scanFrom? : Mode → List Char → List Token → Option (List Token)
  | .between, [], found => some found.reverse
  | .word read, [], found => (ofWord? read.reverse).map fun t => (t :: found).reverse
  | .text _, [], _ => none
  | .between, c :: cs, found =>
    (enter? c).bind fun (tokens, mode) => scanFrom? mode cs (tokens ++ found)
  | .word read, c :: cs, found =>
    if isWordChar c then scanFrom? (.word (c :: read)) cs found
    else
      (ofWord? read.reverse).bind fun t =>
        (enter? c).bind fun (tokens, mode) => scanFrom? mode cs (tokens ++ t :: found)
  | .text t, '"' :: cs, found => scanFrom? .between cs (.text t.finish :: found)
  | .text t, '\\' :: 'u' :: a :: b :: c :: d :: cs, found =>
    (unit? a b c d).bind fun u => scanFrom? (.text (t.escaped u)) cs found
  | .text t, '\\' :: c :: cs, found =>
    (escape? c).bind fun e => scanFrom? (.text (t.char e)) cs found
  | .text t, c :: cs, found =>
    if c == '\\' || c < ' ' then none else scanFrom? (.text (t.char c)) cs found

/-- The tokens of a text. -/
def scan? (s : String) : Option (List Token) :=
  scanFrom? .between s.toList []

end Token

/-! ## Trees -/

/-- A container that is not closed yet, with what it holds so far in reverse. -/
inductive Frame where
  | arr (items : List Json)
  /-- The flag falls when a name is broken; `name` is the name of the entry being read. -/
  | obj (entries : List (String × Json)) (named : Bool) (name : Option String)

/-- What the next token has to be. -/
inductive Expect where
  | value
  /-- The first item of an array, or its end. -/
  | firstItem
  /-- The first name of an object, or its end. -/
  | firstName
  | name
  | colon
  /-- A comma or the end of the container. -/
  | next
  | nothing

/-- The reader between two tokens: the open containers from the inside out, their number, what may
follow, and the tree once it is complete. -/
structure Machine where
  stack : List Frame := []
  depth : Nat := 0
  expect : Expect := .value
  result : Json := .null

namespace Machine

/-- A value is complete: it goes into the innermost open container, or is the result. -/
def complete (m : Machine) (v : Json) : Machine :=
  match m.stack with
  | [] => { m with expect := .nothing, result := v }
  | .arr items :: outer => { m with stack := .arr (v :: items) :: outer, expect := .next }
  | .obj entries named (some k) :: outer =>
    { m with stack := .obj ((k, v) :: entries) named none :: outer, expect := .next }
  | .obj entries _ none :: outer =>
    { m with stack := .obj entries false none :: outer, expect := .next }

/-- Opens a container. -/
def push (m : Machine) (f : Frame) (e : Expect) : Machine :=
  { m with stack := f :: m.stack, depth := m.depth + 1, expect := e }

/-- Closes the innermost container, which is broken below the deepest level that is read. -/
def close (m : Machine) (outer : List Frame) (v : Json) : Machine :=
  complete { m with stack := outer, depth := m.depth - 1 }
    (if m.depth ≤ maxDepth then v else .broken)

/-- Closes an array. -/
def closeArray? (m : Machine) : Option Machine :=
  match m.stack with
  | .arr items :: outer => some (m.close outer (.arr items.reverse))
  | _ => none

/-- Closes an object. -/
def closeObject? (m : Machine) : Option Machine :=
  match m.stack with
  | .obj entries named _ :: outer =>
    some (m.close outer (if named then .obj entries.reverse else .broken))
  | _ => none

/-- Reads a token where a value may stand. -/
def value? (m : Machine) (t : Token) : Option Machine :=
  match t with
  | .openArray => some (m.push (.arr []) .firstItem)
  | .openObject => some (m.push (.obj [] true none) .firstName)
  | .text s => some (m.complete (match s with | some s => .str s | none => .broken))
  | .scalar v => some (m.complete v)
  | _ => none

/-- Reads a token where the name of an entry may stand. -/
def name? (m : Machine) (t : Token) : Option Machine :=
  match m.stack, t with
  | .obj entries named _ :: outer, .text s =>
    some { m with stack := .obj entries named s :: outer, expect := .colon }
  | _, _ => none

/-- Reads one token. -/
def step? (m : Machine) (t : Token) : Option Machine :=
  match m.expect, t with
  | .value, t => m.value? t
  | .firstItem, .closeArray => m.closeArray?
  | .firstItem, t => m.value? t
  | .firstName, .closeObject => m.closeObject?
  | .firstName, t => m.name? t
  | .name, t => m.name? t
  | .colon, .colon => some { m with expect := .value }
  | .next, .closeArray => m.closeArray?
  | .next, .closeObject => m.closeObject?
  | .next, .comma =>
    match m.stack with
    | .arr _ :: _ => some { m with expect := .value }
    | .obj .. :: _ => some { m with expect := .name }
    | [] => none
  | _, _ => none

end Machine

/-- The tree that a text denotes. -/
def read? (s : String) : Option Json :=
  (Token.scan? s).bind fun tokens =>
    (tokens.foldlM Machine.step? {}).bind fun m =>
      match m.expect with
      | .nothing => some m.result
      | _ => none

end MarketChart.Json
