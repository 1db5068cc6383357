import MarketChart.Number.Decimal
import MarketChart.Time.Calendar

/-!
# Internet timestamps

Reads a timestamp such as `2024-01-15T10:00:00.5+02:00`: a date, a separator, a time with an
optional fraction, and the zone. The second may be sixty.
-/

namespace MarketChart.Stamp

/-- A number of exactly so many digits at the start of a text, and the rest. -/
def digits? (count : Nat) (cs : List Char) : Option (Nat × List Char) :=
  let found := cs.take count
  if found.length == count && found.all Char.isDigit then
    some (Numeral.digitsValue found, cs.drop count)
  else none

/-- The rest of a text after a given character. -/
def after? (c : Char) : List Char → Option (List Char)
  | d :: rest => if d == c then some rest else none
  | [] => none

/-- The rest of a text after the separator of date and time. -/
def afterSeparator? : List Char → Option (List Char)
  | 'T' :: rest | 't' :: rest | ' ' :: rest => some rest
  | _ => none

/-- The date at the start of a text. -/
def date? (cs : List Char) : Option (Date × List Char) := do
  let (year, cs) ← digits? 4 cs
  let cs ← after? '-' cs
  let (month, cs) ← digits? 2 cs
  let cs ← after? '-' cs
  let (day, cs) ← digits? 2 cs
  let date : Date := ⟨year, month, day⟩
  if date.isValid then some (date, cs) else none

/-- A time of day: the hour, the minute and the second, which may be sixty. -/
def time? (cs : List Char) : Option ((Nat × Nat × Nat) × List Char) := do
  let (hour, cs) ← digits? 2 cs
  let cs ← after? ':' cs
  let (minute, cs) ← digits? 2 cs
  let cs ← after? ':' cs
  let (second, cs) ← digits? 2 cs
  if hour ≤ 23 && minute ≤ 59 && second ≤ 60 then some ((hour, minute, second), cs) else none

/-- The fraction of a second after a time, in nanoseconds; digits beyond the ninth are dropped. -/
def fraction? : List Char → Option (Nat × List Char)
  | '.' :: cs =>
    let (digits, rest) := cs.span Char.isDigit
    let kept := digits.take 9
    if digits.isEmpty then none
    else some (Numeral.digitsValue kept * Nat.pow 10 (9 - kept.length), rest)
  | cs => some (0, cs)

/-- The zone at the end of a text, in seconds east: `Z`, or a sign, hours and minutes. -/
def zone? (cs : List Char) : Option Int := do
  let offset (sign : Int) (cs : List Char) : Option Int := do
    let (hours, cs) ← digits? 2 cs
    let cs ← after? ':' cs
    let (minutes, cs) ← digits? 2 cs
    if hours ≤ 23 && minutes ≤ 59 && cs.isEmpty then some (sign * ((hours * 60 + minutes) * 60))
    else none
  match cs with
  | ['Z'] | ['z'] => some 0
  | '+' :: cs => offset 1 cs
  | '-' :: cs | '−' :: cs => offset (-1) cs
  | _ => none

/-- The moment that a timestamp names. -/
def read? (s : String) : Option Moment := do
  let (date, cs) ← date? s.toList
  let cs ← afterSeparator? cs
  let ((hour, minute, second), cs) ← time? cs
  let (nanos, cs) ← fraction? cs
  let zone ← zone? cs
  let leap := second == 60
  let secondOfDay := (hour * 60 + minute) * 60 + (if leap then 59 else second)
  return ⟨date.toDays * 86400 + secondOfDay - zone, if leap then nanos + 1000000000 else nanos⟩

end MarketChart.Stamp
