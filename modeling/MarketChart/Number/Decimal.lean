import MarketChart.Number.Double
import MarketChart.Text.Blank

/-!
# Numbers written in decimal

A `Numeral` is the text of an unsigned decimal number cut into its parts. `Numeral.read?` takes
the parts apart, `Numeral.toFloat` is the double nearest to the number they denote, and
`Number.ofText?` reads a whole text as a double: an optional sign, then a numeral or the name of
an infinity or of not-a-number.
-/

namespace MarketChart

/-- The parts of an unsigned decimal number: the digits before the point, those after it when
there is a point, and the exponent when there is one, with `true` for a negative exponent. -/
structure Numeral where
  whole : List Char
  fraction : Option (List Char)
  exponent : Option (Bool × List Char)

namespace Numeral

/-- The number that decimal digits denote. -/
def digitsValue (digits : List Char) : Nat :=
  digits.foldl (fun n c => 10 * n + (c.toNat - '0'.toNat)) 0

/-- An exponent after its mark: an optional sign and at least one digit, to the end. -/
def readExponent? (cs : List Char) : Option (Bool × List Char) :=
  let (negative, digits) := match cs with
    | '-' :: rest => (true, rest)
    | '+' :: rest => (false, rest)
    | _ => (false, cs)
  if !digits.isEmpty && digits.all Char.isDigit then some (negative, digits) else none

/-- Cuts a text into the parts of a number; there may be no digits on either side of the point. -/
def read? (cs : List Char) : Option Numeral :=
  let (whole, rest) := cs.span Char.isDigit
  let (fraction, rest) := match rest with
    | '.' :: rest => let (digits, rest) := rest.span Char.isDigit; (some digits, rest)
    | _ => (none, rest)
  match rest with
  | [] => some ⟨whole, fraction, none⟩
  | c :: rest =>
    if c == 'e' || c == 'E' then (readExponent? rest).map fun e => ⟨whole, fraction, some e⟩
    else none

/-- The digits of the number with the point left out. -/
def digits (n : Numeral) : List Char := n.whole ++ n.fraction.getD []

/-- The power of ten by which the number without its point is multiplied. -/
def power (n : Numeral) : Int :=
  let e : Int := match n.exponent with
    | none => 0
    | some (negative, digits) => if negative then -(digitsValue digits) else digitsValue digits
  e - (n.fraction.getD []).length

/-- The double nearest to the number, infinite beyond the range of doubles. -/
def toFloat (n : Numeral) : Float :=
  Float.ofScientific (digitsValue n.digits) (n.power < 0) n.power.natAbs

end Numeral

namespace Number

/-- Splits an optional sign off a text; `true` is a minus. -/
def splitSign : List Char → Bool × List Char
  | '-' :: rest => (true, rest)
  | '+' :: rest => (false, rest)
  | cs => (false, cs)

/-- A double without its sign: the name of an infinity or of not-a-number in any case, or a
numeral with at least one digit. -/
def unsignedOfText? (cs : List Char) : Option Float :=
  let name := String.ofList (cs.map Char.toLower)
  if name == "inf" || name == "infinity" then some infinity
  else if name == "nan" then some notANumber
  else (Numeral.read? cs).bind fun n => if n.digits.isEmpty then none else some n.toFloat

/-- The double that a text denotes, blanks around it left out. -/
def ofText? (s : String) : Option Float :=
  let (negative, cs) := splitSign (Text.trimBlanks s.toList)
  (unsignedOfText? cs).map fun x => if negative then -x else x

end Number

end MarketChart
