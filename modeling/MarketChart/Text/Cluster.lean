import MarketChart.Text.Property

/-!
# Clusters of characters

A cluster is what a reader takes for one character: a base with its marks, a syllable of jamo, a
flag, or pictographs with joiners between them. `clusters` cuts a text into its clusters, by the
rules for extended grapheme clusters; `Boundary.joins` holds these rules.
-/

namespace MarketChart.Text

/-- How a character joins to its neighbours. -/
inductive JoinClass where
  | carriageReturn
  | lineFeed
  | control
  | extender
  | joiner
  | regional
  | prepend
  | spacingMark
  | leadingJamo
  | vowelJamo
  | trailingJamo
  /-- A syllable without a trailing consonant. -/
  | openSyllable
  /-- A syllable with a trailing consonant. -/
  | closedSyllable
  | pictograph
  | other
deriving DecidableEq, Inhabited

/-- Vowel jamo, and vowel signs of another script that join like them. -/
def vowelRanges : List (Nat × Nat) :=
  [(0x1160, 0x11a7), (0xd7b0, 0xd7c6), (0x16d63, 0x16d63), (0x16d67, 0x16d6a)]

/-- The class of a character. -/
def JoinClass.ofChar (c : Char) : JoinClass :=
  let n := c.toNat
  if n = 0xd then .carriageReturn
  else if n = 0xa then .lineFeed
  else if inRanges n controlRanges then .control
  else if n < 0xa9 then .other
  else if n = 0x200d then .joiner
  else if inRanges n spacingMarkRanges then .spacingMark
  else if inRanges n markRanges || inRanges n laterMarkRanges then .extender
  else if inRanges n [(0x1f3fb, 0x1f3ff)] then .extender
  else if inRanges n prependRanges then .prepend
  else if inRanges n [(0x1f1e6, 0x1f1ff)] then .regional
  else if inRanges n [(0x1100, 0x115f), (0xa960, 0xa97c)] then .leadingJamo
  else if inRanges n vowelRanges then .vowelJamo
  else if inRanges n [(0x11a8, 0x11ff), (0xd7cb, 0xd7fb)] then .trailingJamo
  else if inRanges n [(0xac00, 0xd7a3)] then
    if (n - 0xac00) % 28 = 0 then .openSyllable else .closedSyllable
  else if inRanges n pictographRanges then .pictograph
  else .other

/-- How far a pair of consonants with a linker between them has come. -/
inductive Conjunct where
  | none
  | consonant
  | linked
deriving DecidableEq, Inhabited

/-- What the rules look at before a place where a text may be cut. -/
structure Boundary where
  /-- The class of the last character. -/
  last : JoinClass
  /-- The cluster ends in an odd number of regional indicators. -/
  oddRegional : Bool
  /-- The cluster ends in a pictograph with extenders, and then at most one joiner. -/
  pictograph : Bool
  conjunct : Conjunct
deriving DecidableEq, Inhabited

namespace Boundary

/-- A character goes on with the cluster before it. -/
def joins (b : Boundary) (c : Char) : Bool :=
  match b.last, JoinClass.ofChar c with
  | .carriageReturn, .lineFeed => true
  | .carriageReturn, _ | .lineFeed, _ | .control, _ => false
  | _, .carriageReturn | _, .lineFeed | _, .control => false
  | .leadingJamo, .leadingJamo | .leadingJamo, .vowelJamo => true
  | .leadingJamo, .openSyllable | .leadingJamo, .closedSyllable => true
  | .openSyllable, .vowelJamo | .vowelJamo, .vowelJamo => true
  | .openSyllable, .trailingJamo | .vowelJamo, .trailingJamo => true
  | .closedSyllable, .trailingJamo | .trailingJamo, .trailingJamo => true
  | _, .extender | _, .joiner | _, .spacingMark => true
  | .prepend, _ => true
  | .joiner, .pictograph => b.pictograph
  | .regional, .regional => b.oddRegional
  | _, .other => b.conjunct == .linked && inRanges c.toNat consonantRanges
  | _, _ => false

/-- How far a conjunct has come with one more character. -/
def nextConjunct (before : Conjunct) (c : Char) : Conjunct :=
  let n := c.toNat
  if n < 0x300 then .none
  else if inRanges n consonantRanges then .consonant
  else if before = .none || n = 0x200c then .none
  else if inRanges n linkerRanges then .linked
  else
    match JoinClass.ofChar c with
    | .extender | .joiner => before
    | _ => .none

/-- The place after one more character of the cluster. -/
def next (b : Boundary) (c : Char) : Boundary :=
  let joining := JoinClass.ofChar c
  { last := joining
    oddRegional := joining == .regional && !b.oddRegional
    pictograph :=
      match joining with
      | .pictograph => true
      | .extender | .joiner => b.pictograph && b.last != .joiner
      | _ => false
    conjunct := nextConjunct b.conjunct c }

/-- The place before a cluster. -/
def start : Boundary := ⟨.other, false, false, .none⟩

end Boundary

/-- The clusters of characters, of which the first goes on from the characters in `current`, which
are in reverse order. -/
def clustersFrom (b : Boundary) (current : List Char) : List Char → List (List Char)
  | [] => if current.isEmpty then [] else [current.reverse]
  | c :: rest =>
    if current.isEmpty then clustersFrom (Boundary.start.next c) [c] rest
    else if b.joins c then clustersFrom (b.next c) (c :: current) rest
    else current.reverse :: clustersFrom (Boundary.start.next c) [c] rest

/-- The clusters of a text. -/
def clusters (s : String) : List (List Char) := clustersFrom .start [] s.toList

end MarketChart.Text
