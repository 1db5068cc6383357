import MarketChart.Text.Hex

/-!
# Colours

The colours of the terminal and the reading of `#rrggbb`.
-/

namespace MarketChart

/-- A colour. -/
inductive Color where
  /-- The terminal's own. -/
  | reset
  | cyan
  | green
  | red
  | yellow
  | gray
  | white
  | rgb (r g b : Nat)
deriving DecidableEq, Inhabited

namespace Color

/-- The value of a channel: two hexadecimal digits, or a plus sign and one. -/
def channel? (a b : Char) : Option Nat :=
  if a == '+' then Text.hexDigit? b
  else do return (← Text.hexDigit? a) * 16 + (← Text.hexDigit? b)

/-- The colour of six hexadecimal digits after any number of hash signs; gray for anything else. -/
def ofHex (s : String) : Color :=
  match s.toList.dropWhile (· == '#') with
  | [a, b, c, d, e, f] =>
    match channel? a b, channel? c d, channel? e f with
    | some r, some g, some b => .rgb r g b
    | _, _, _ => .gray
  | _ => .gray

/-- The name of a colour. -/
def name : Color → String
  | .reset => "reset"
  | .cyan => "cyan"
  | .green => "green"
  | .red => "red"
  | .yellow => "yellow"
  | .gray => "gray"
  | .white => "white"
  | .rgb r g b => "rgb(" ++ toString r ++ "," ++ toString g ++ "," ++ toString b ++ ")"

end Color

end MarketChart
