import MarketChart.Text.WidthProperty

/-!
# The width of a character

The number of cells that a character takes on a terminal when nothing beside it changes that.
Marks and invisible characters take none, and the characters of East Asian scripts and most
pictures take two.
-/

namespace MarketChart.Text

/-- Characters whose width is not that of their class: the filler in the place of a leading jamo,
a sign for a whole word, and a sign that joins consonants but is seen. -/
def widthExceptions : List (Nat × Nat) := [(0x115f, 2), (0x17d8, 3), (0x2d7f, 1)]

/-- A character stands in the cell of another one or is not seen at all. -/
def takesNoCell (n : Nat) : Bool :=
  inRanges n ignorableRanges || inRanges n markRanges || inRanges n restingRanges

/-- The number of cells of a character. -/
def charWidth (c : Char) : Nat :=
  let n := c.toNat
  match widthExceptions.lookup n with
  | some width => width
  | none => if takesNoCell n then 0 else if inRanges n wideRanges then 2 else 1

end MarketChart.Text
