import MarketChart.Text.Following

/-!
# Width on a terminal

The number of cells that a text takes on a terminal. Characters are read from right to left, so
that each one meets what stands behind it.
-/

namespace MarketChart.Text

/-- The number of cells of characters, and what their first one is for a character before it. -/
def measure (cs : List Char) : Int × Context :=
  cs.foldr (fun c (sum, x) => let (width, x) := x.step c; (sum + width, x)) (0, {})

/-- The number of cells of characters in a row. -/
def charsWidth (cs : List Char) : Nat := (measure cs).1.toNat

end MarketChart.Text
