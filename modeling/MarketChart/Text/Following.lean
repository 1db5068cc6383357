import MarketChart.Text.CharWidth

/-!
# What follows a character

The width of a character can depend on what stands behind it. A joiner makes one picture of two, a
modifier belongs to the picture before it, and in some scripts two letters become one. `Following`
is what the characters behind a place have in common for this, and `Following.before?` is the
width and the new `Following` of a character that makes one with them.

A variation selector asks for one of two styles of the character before it. `Context` is a
`Following` with such requests, and `Context.step` reads one character more, from right to left.
-/

namespace MarketChart.Text

/-! ## Characters with a part in joining -/

/-- The invisible character that joins its neighbours. -/
def joinerCode : Nat := 0x200d

/-- The variation selectors for text and for a picture. -/
def textSelector : Nat := 0xfe0e

@[inherit_doc textSelector]
def pictureSelector : Nat := 0xfe0f

/-- Regional indicators, of which two make a flag. -/
def isRegional (n : Nat) : Bool := inRanges n [(0x1f1e6, 0x1f1ff)]

/-- Modifiers for the colour of skin. -/
def isModifier (n : Nat) : Bool := inRanges n [(0x1f3fb, 0x1f3ff)]

/-- Letters and digits that are not shown, behind a black flag. -/
def isTagLetter (n : Nat) : Bool := inRanges n [(0xe0061, 0xe007a)]

@[inherit_doc isTagLetter]
def isTagDigit (n : Nat) : Bool := inRanges n [(0xe0030, 0xe0039)]

/-- The consonants of Tifinagh, which can be written as one. -/
def isTifinaghConsonant (n : Nat) : Bool := inRanges n [(0x2d31, 0x2d65), (0x2d6f, 0x2d6f)]

/-- The letters of Khmer that can be written below another one. -/
def isKhmerSubscript (n : Nat) : Bool :=
  inRanges n [(0x1780, 0x1782), (0x1784, 0x1787), (0x1789, 0x178c), (0x178e, 0x1793),
    (0x1795, 0x1798), (0x179b, 0x179d), (0x17a0, 0x17a0), (0x17a2, 0x17a2), (0x17a7, 0x17a7),
    (0x17ab, 0x17ac), (0x17af, 0x17af)]

/-- A character can be asked to be a picture. -/
def hasPictureStyle (n : Nat) : Bool := inRanges n textStyleRanges || inRanges n bothStylesRanges

/-- A picture can be asked to be text, and takes one cell then. The ideographs among them stay as
wide as they are. -/
def hasNarrowStyle (n : Nat) : Bool :=
  inRanges n bothStylesRanges && !inRanges n [(0x1f200, 0x1f2ff)]

/-- A character without width that lies on a letter and does not keep it from joining. -/
def letsJoin (c : Char) : Bool := charWidth c = 0 && !inRanges c.toNat unjoiningRanges

/-! ## Letters that make one with a letter before them -/

/-- A letter that can be the second of two letters in one. -/
inductive SecondLetter where
  | hebrewLamed
  | bugineseYa
  /-- A Buginese ya behind a vowel sign and a joiner. -/
  | vowelledYa
  | tifinagh
  /-- A consonant of Tifinagh behind the sign that joins consonants. -/
  | joinedTifinagh
  | lisuTone
  | orkhonI
  | khmer
deriving DecidableEq, Inhabited

namespace SecondLetter

/-- A character as the second of two letters in one. -/
def ofCode? (n : Nat) : Option SecondLetter :=
  if n = 0x5dc then some .hebrewLamed
  else if n = 0x1a10 then some .bugineseYa
  else if isTifinaghConsonant n then some .tifinagh
  else if inRanges n [(0xa4fc, 0xa4fd)] then some .lisuTone
  else if n = 0x10c03 then some .orkhonI
  else if isKhmerSubscript n then some .khmer
  else none

/-- The width of a character before a second letter, if the two belong together, and what it
leaves to join with; `joined` says that a joiner stands between them. The width is negative for a
sign that puts the letter behind it below another one. -/
def before? (l : SecondLetter) (joined : Bool) (n : Nat) : Option (Int × Option SecondLetter) :=
  match l with
  | .hebrewLamed => if joined && n = 0x5d0 then some (0, none) else none
  | .bugineseYa => if joined && n = 0x1a17 then some (0, some .vowelledYa) else none
  | .vowelledYa => if n = 0x1a15 then some (0, none) else none
  | .tifinagh =>
    if n = 0x2d7f then some (1, some .joinedTifinagh)
    else if joined && isTifinaghConsonant n then some (0, none)
    else none
  | .joinedTifinagh => if isTifinaghConsonant n then some (-1, none) else none
  | .lisuTone => if inRanges n [(0xa4f8, 0xa4fb)] then some (0, none) else none
  | .orkhonI => if joined && n = 0x10c32 then some (0, none) else none
  | .khmer => if n = 0x17d2 then some (-1, none) else none

end SecondLetter

/-! ## What stands behind a place -/

/-- What stands behind a place in a text. -/
inductive Following where
  /-- Nothing with which a character makes one. -/
  | other
  | lineFeed
  | modifier
  | regional
  /-- Two regional indicators or more. -/
  | regionals
  | picture
  /-- A joiner before a picture. -/
  | joined
  /-- The frame of a key before a joiner. -/
  | joinedKey
  /-- One regional indicator before a joiner. -/
  | joinedRegional
  /-- An even number of regional indicators before a joiner. -/
  | joinedEven
  /-- An odd number of them, and at least three. -/
  | joinedOdd
  /-- So many tag letters, then the end of tags before a joiner. -/
  | tagLetters (count : Nat)
  /-- So many tag digits before tag letters or the end of tags. -/
  | tagDigits (count : Nat)
  | alef
  /-- A second letter, and whether a joiner stands before it. -/
  | second (l : SecondLetter) (joined : Bool)
deriving DecidableEq, Inhabited

namespace Following

/-- Two letters make one here, whatever variation selectors stand between them. -/
def isLetter : Following → Bool
  | .alef | .second _ _ => true
  | _ => false

/-- A picture before this place is a part of the one behind the joiner. -/
def awaitsPicture : Following → Bool
  | .joined | .joinedKey => true
  | _ => false

/-- What a character is for the one before it. -/
def ofCode (n : Nat) : Following :=
  if n < 0x5dc then .other
  else if isRegional n then .regional
  else if isModifier n then .modifier
  else if inRanges n pictureRanges then .picture
  else if inRanges n alefRanges then .alef
  else match SecondLetter.ofCode? n with
    | some l => .second l false
    | none => .other

/-- The width of a character before a joined picture, and what stands behind its place then. -/
def beforeJoined? (n : Nat) : Option (Int × Following) :=
  if n = 0x20e3 then some (0, .joinedKey)
  else if isRegional n then some (1, .joinedRegional)
  else if isModifier n then some (0, .modifier)
  else if n = 0xe007f then some (0, .tagLetters 0)
  else if inRanges n pictureRanges then some (0, .picture)
  else none

/-- The width of a character before tags, and what stands behind its place then. A region has two
letters or three digits, and a part of it up to four of either. -/
def beforeTags? (digits : Bool) (count : Nat) (n : Nat) : Option (Int × Following) :=
  if n = 0x1f3f4 then if 3 ≤ count then some (0, .picture) else none
  else if isTagDigit n then
    if digits then if count < 3 then some (0, .tagDigits (count + 1)) else none
    else if count ≤ 4 then some (0, .tagDigits 1) else none
  else if isTagLetter n then
    if digits = false ∧ count < 6 then some (0, .tagLetters (count + 1)) else none
  else none

/-- The width of a character that makes one with what stands behind it, and what stands behind its
place then. Widths of regional indicators before a joiner add up to two cells for each pair but
the last. -/
def before? (f : Following) (c : Char) : Option (Int × Following) :=
  let n := c.toNat
  match f with
  | .other | .lineFeed | .joinedKey => none
  | .alef =>
    if inRanges n lamRanges then some (0, .other)
    else if letsJoin c then some (0, .alef)
    else none
  | .second l behindJoiner =>
    if n = joinerCode then some (0, .second l true)
    else if inRanges n selectorRanges then some (0, f)
    else (l.before? behindJoiner n).map fun (width, rest) =>
      (width, match rest with
        | some l => .second l true
        | none => .other)
  | .modifier =>
    if inRanges n modifierBaseRanges then some (0, .picture)
    else if n = joinerCode then some (0, .joined)
    else none
  | .regional => if isRegional n then some (1, .regionals) else none
  | .regionals =>
    if isRegional n then some (1, .regionals)
    else if n = joinerCode then some (0, .joined)
    else none
  | .picture => if n = joinerCode then some (0, .joined) else none
  | .joined => beforeJoined? n
  | .joinedRegional => if isRegional n then some (-1, .joinedEven) else none
  | .joinedEven =>
    if isRegional n then some (3, .joinedOdd)
    else if n = joinerCode then some (0, .joined)
    else none
  | .joinedOdd =>
    if isRegional n then some (-1, .joinedEven)
    else if n = joinerCode then some (0, .joined)
    else none
  | .tagLetters count => beforeTags? false count n
  | .tagDigits count => beforeTags? true count n

end Following

/-! ## Reading from right to left -/

/-- What stands behind a place, with the style that a variation selector there asks for. -/
structure Context where
  following : Following := .other
  /-- A picture is asked for. -/
  picture : Bool := false
  /-- Text is asked for. -/
  text : Bool := false
deriving DecidableEq, Inhabited

namespace Context

/-- The context of a character by itself. -/
def ofCode (n : Nat) : Context :=
  if n = textSelector then { text := true }
  else if n = pictureSelector then { picture := true }
  else { following := .ofCode n }

/-- A picture is asked for. This keeps letters that join, and a joined picture if it is the first
request before it. -/
def askPicture (x : Context) : Context :=
  if x.following.isLetter || (x.following.awaitsPicture && !x.picture) then
    { x with picture := true }
  else { picture := true }

/-- Text is asked for. -/
def askText (x : Context) : Context :=
  if x.following.isLetter then { x with text := true } else { text := true }

/-- A request for a picture is dropped, with what it stood before unless that is a letter. -/
def dropPicture (x : Context) : Context :=
  if !x.picture then x else if x.following.isLetter then { x with picture := false } else {}

/-- A request for text is dropped, with what it stood before unless that is a letter. -/
def dropText (x : Context) : Context :=
  if !x.text then x else if x.following.isLetter then { x with text := false } else {}

/-- The width of a character up to the blank that does not break, which joins to nothing but a
line feed. Line feeds have no width, and a carriage return before one has none either; all other
controls take a cell. -/
def stepControl (n : Nat) (x : Context) : Int × Context :=
  if n = 0xa then (0, { following := .lineFeed })
  else if n = 0xd ∧ x = { following := .lineFeed } then (0, {})
  else (1, {})

/-- The width of a character that was not asked to be a picture. -/
def stepPlain (c : Char) (x : Context) : Int × Context :=
  let n := c.toNat
  if n ≤ 0xa0 then x.stepControl n
  else if x = {} then (charWidth c, .ofCode n)
  else if n = pictureSelector then (0, x.askPicture)
  else if n = textSelector then (0, x.askText)
  else if x.text && hasNarrowStyle n then (1, {})
  else match x.dropText.following.before? c with
    | some (width, following) => (width, { following })
    | none => (charWidth c, .ofCode n)

/-- The width of a character before what stands behind it, and what stands behind its place. -/
def step (c : Char) (x : Context) : Int × Context :=
  if x.picture && hasPictureStyle c.toNat then
    (if x.following.awaitsPicture then 0 else 2, { following := .picture })
  else x.dropPicture.stepPlain c

end Context

end MarketChart.Text
