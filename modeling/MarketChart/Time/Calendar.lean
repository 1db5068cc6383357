/-!
# The calendar

Days are counted from 1 January 1970 in the proleptic Gregorian calendar; `Date.ofDays` and
`Date.toDays` go from the count to the date and back. A `Moment` is a point of universal time
with its fraction of a second, and is shown in the two forms the program writes.
-/

namespace MarketChart

/-- A day of the calendar. -/
structure Date where
  year : Int
  month : Nat
  day : Nat
deriving DecidableEq, Inhabited

namespace Date

/-- The date of a day. The year is taken to begin in March, so that the leap day is its last; a
cycle of the calendar is 146097 days. -/
def ofDays (days : Int) : Date :=
  let shifted := days + 719468
  let cycle := shifted / 146097
  let dayOfCycle := (shifted % 146097).toNat
  let yearOfCycle :=
    (dayOfCycle - dayOfCycle / 1460 + dayOfCycle / 36524 - dayOfCycle / 146096) / 365
  let dayOfYear := dayOfCycle - (365 * yearOfCycle + yearOfCycle / 4 - yearOfCycle / 100)
  let monthFromMarch := (5 * dayOfYear + 2) / 153
  let day := dayOfYear - (153 * monthFromMarch + 2) / 5 + 1
  let month := if monthFromMarch < 10 then monthFromMarch + 3 else monthFromMarch - 9
  let year := (yearOfCycle : Int) + cycle * 400
  ⟨if month ≤ 2 then year + 1 else year, month, day⟩

/-- The day of a date. -/
def toDays (d : Date) : Int :=
  let year := if d.month ≤ 2 then d.year - 1 else d.year
  let cycle := year / 400
  let yearOfCycle := (year % 400).toNat
  let monthFromMarch := if d.month ≤ 2 then d.month + 9 else d.month - 3
  let dayOfYear := (153 * monthFromMarch + 2) / 5 + d.day - 1
  let dayOfCycle := yearOfCycle * 365 + yearOfCycle / 4 - yearOfCycle / 100 + dayOfYear
  cycle * 146097 + (dayOfCycle : Int) - 719468

/-- The year has a leap day. -/
def isLeap (year : Int) : Bool :=
  year % 4 == 0 && (year % 100 != 0 || year % 400 == 0)

/-- The number of days of a month. -/
def daysIn (year : Int) (month : Nat) : Nat :=
  if month == 2 then if isLeap year then 29 else 28
  else if month == 4 || month == 6 || month == 9 || month == 11 then 30
  else 31

/-- The date exists. -/
def isValid (d : Date) : Bool :=
  1 ≤ d.month && d.month ≤ 12 && 1 ≤ d.day && d.day ≤ daysIn d.year d.month

end Date

/-- A number with zeros in front up to a width. -/
def padded (width : Nat) (n : Nat) : String :=
  let digits := toString n
  String.ofList (List.replicate (width - digits.length) '0') ++ digits

/-- A year: four digits, and beyond these or before the year zero with its sign. -/
def yearText (year : Int) : String :=
  if 0 ≤ year ∧ year ≤ 9999 then padded 4 year.toNat
  else (if year < 0 then "-" else "+") ++ padded 4 year.natAbs

/-- The English short name of a month. -/
def monthName (month : Nat) : String :=
  match month with
  | 1 => "Jan"
  | 2 => "Feb"
  | 3 => "Mar"
  | 4 => "Apr"
  | 5 => "May"
  | 6 => "Jun"
  | 7 => "Jul"
  | 8 => "Aug"
  | 9 => "Sep"
  | 10 => "Oct"
  | 11 => "Nov"
  | _ => "Dec"

/-- A point of universal time. In a leap second `nanos` runs from one to two thousand million. -/
structure Moment where
  /-- Seconds since the epoch. -/
  seconds : Int
  nanos : Nat
deriving DecidableEq, Inhabited

namespace Moment

/-- The first millisecond that has a date. -/
def firstMillis : Int := -8334601228800000

/-- The last millisecond that has a date. -/
def lastMillis : Int := 8210266876799999

/-- The moment of a count of milliseconds, if it has a date. -/
def ofMillis? (ms : Int) : Option Moment :=
  if firstMillis ≤ ms ∧ ms ≤ lastMillis then some ⟨ms / 1000, (ms % 1000).toNat * 1000000⟩ else none

/-- Milliseconds since the epoch; a leap second counts as the second after it. -/
def toMillis (m : Moment) : Int := m.seconds * 1000 + (m.nanos / 1000000 : Nat)

/-- The day. -/
def date (m : Moment) : Date := .ofDays (m.seconds / 86400)

/-- The second of the day, leap seconds apart. -/
def secondOfDay (m : Moment) : Nat := (m.seconds % 86400).toNat

/-- The hour of the day. -/
def hour (m : Moment) : Nat := m.secondOfDay / 3600

/-- The minute of the hour. -/
def minute (m : Moment) : Nat := m.secondOfDay / 60 % 60

/-- The second of the minute, up to sixty in a leap second. -/
def second (m : Moment) : Nat := m.secondOfDay % 60 + m.nanos / 1000000000

/-- The form in the trade table, such as `Jan 5, 2024, 09:30`. -/
def tradeText (m : Moment) : String :=
  let d := m.date
  monthName d.month ++ " " ++ toString d.day ++ ", " ++ yearText d.year ++ ", " ++
    padded 2 m.hour ++ ":" ++ padded 2 m.minute

/-- The form in the header, such as `2024-01-05 09:30:00`. -/
def headerText (m : Moment) : String :=
  let d := m.date
  yearText d.year ++ "-" ++ padded 2 d.month ++ "-" ++ padded 2 d.day ++ " " ++
    padded 2 m.hour ++ ":" ++ padded 2 m.minute ++ ":" ++ padded 2 m.second

end Moment

end MarketChart
