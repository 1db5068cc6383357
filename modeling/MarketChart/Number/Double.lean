/-!
# Doubles, read exactly

Prices and sample values are IEEE doubles. The arithmetic on them is `Float`'s own; this file
adds what the chart needs beside it, each computed from the exact value `± m · 2 ^ e` of a
double: the extremum of two doubles that ignores not-a-number, the floor as an integer, and the
text with two decimals (`Number.fixed2`).
-/

namespace MarketChart.Number

/-- The larger of two doubles. A not-a-number loses to the other operand, and of two equal
operands the first stands. -/
def larger (x y : Float) : Float :=
  if x.isNaN then y else if x < y then y else x

/-- The smaller of two doubles. A not-a-number loses to the other operand, and of two equal
operands the first stands. -/
def smaller (x y : Float) : Float :=
  if x.isNaN then y else if y < x then y else x

/-- Positive infinity. -/
def infinity : Float := Float.ofBits 0x7ff0000000000000

/-- Not-a-number. -/
def notANumber : Float := Float.ofBits 0x7ff8000000000000

/-- The largest finite double. -/
def largest : Float := Float.ofBits 0x7fefffffffffffff

/-- The distance from one to the next double, `2 ^ -52`. -/
def epsilon : Float := Float.ofBits 0x3cb0000000000000

/-- The floor of `n · 2 ^ e`. -/
def scaledFloor (n : Int) (e : Int) : Int :=
  if 0 ≤ e then n * Int.pow 2 e.toNat else n / Int.pow 2 (-e).toNat

/-- The greatest integer not above a finite double; `0` for the other doubles. -/
def floor (x : Float) : Int :=
  match x.toModel.unpack with
  | .finite sign m e _ => scaledFloor (sign.apply m) e
  | _ => 0

/-- The nearest integer that a signed 64-bit word holds. -/
def clampWord (n : Int) : Int :=
  max (-9223372036854775808) (min n 9223372036854775807)

/-! ## Two decimals -/

/-- The quotient `n / d` rounded to the nearest natural number, a half to the even one. -/
def roundHalfEven (n d : Nat) : Nat :=
  let q := n / d
  let r := n % d
  if 2 * r < d then q else if d < 2 * r then q + 1 else q + q % 2

/-- The hundredths in `m · 2 ^ e`, rounded half to even. -/
def hundredths (m : Nat) (e : Int) : Nat :=
  if 0 ≤ e then m * 100 * Nat.pow 2 e.toNat else roundHalfEven (m * 100) (Nat.pow 2 (-e).toNat)

/-- A count of hundredths, written with two decimals. -/
def hundredthsText (n : Nat) : String :=
  let cents := n % 100
  toString (n / 100) ++ "." ++ toString (cents / 10) ++ toString (cents % 10)

/-- The sign that a number's text starts with. -/
def signText : Float.Model.UnpackedFloat.Sign → String
  | .negative => "-"
  | .positive => ""

/-- A double with two decimals: the exact value rounded, halves to the even hundredth, with all
its digits; a negative value keeps its sign even where it rounds to zero. -/
def fixed2 (x : Float) : String :=
  match x.toModel.unpack with
  | .notANumber => "NaN"
  | .infinity sign => signText sign ++ "inf"
  | .zero sign => signText sign ++ "0.00"
  | .finite sign m e _ => signText sign ++ hundredthsText (hundredths m e)

end MarketChart.Number
