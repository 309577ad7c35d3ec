import DocSearch.Text.Numeral
/-!
# Calendar days and instants

* `Day` — a day, counted from the first of January 1970.
* `Date` — year, month and day of the Gregorian calendar, extended to all years.
* `Day.date`, `Date.day` — the way from one to the other and back.
* `Date.read?`, `Date.render` — the text of a date, such as `2024-03-14`.
* `Day.monday`, `Day.firstOfMonth`, `Day.firstOfYear` — where the week, month and year of a day
  begin.
* `Instant` — milliseconds since the start of day 0, in universal time.
-/

namespace DocSearch

/-- A day, as the number of days since the first of January 1970. -/
structure Day where
  number : Int
deriving DecidableEq, Repr, Inhabited

/-- A date of the Gregorian calendar. -/
structure Date where
  year : Int
  month : Nat
  day : Nat
deriving DecidableEq, Repr, Inhabited

/-- Milliseconds since the start of day 0. -/
structure Instant where
  millis : Int
deriving DecidableEq, Repr, Inhabited

/-- Every fourth year is a leap year, less three centuries of four. -/
def isLeapYear (year : Int) : Bool := year % 4 = 0 && (year % 100 ≠ 0 || year % 400 = 0)

/-- The length of a month. -/
def monthLength (year : Int) (month : Nat) : Nat :=
  if month = 2 then if isLeapYear year then 29 else 28
  else if month = 4 ∨ month = 6 ∨ month = 9 ∨ month = 11 then 30
  else 31

namespace Date

/-- Month and day stand in the calendar. -/
def isValid (d : Date) : Bool :=
  1 ≤ d.month && d.month ≤ 12 && 1 ≤ d.day && d.day ≤ monthLength d.year d.month

/-- The day of a date. Years are counted from March, so that the leap day comes last, in cycles of
400 years with 146097 days each. -/
def toDay (d : Date) : Day :=
  let year := if d.month ≤ 2 then d.year - 1 else d.year
  let cycle := year.fdiv 400
  let yearOfCycle := year.fmod 400
  let month := (d.month + 9) % 12
  let dayOfYear : Int := (153 * month + 2) / 5 + d.day - 1
  let dayOfCycle := yearOfCycle * 365 + yearOfCycle / 4 - yearOfCycle / 100 + dayOfYear
  ⟨cycle * 146097 + dayOfCycle - 719468⟩

/-- A natural with leading zeros up to a width. -/
def padded (width n : Nat) : String :=
  let digits := toString n
  .ofList (List.replicate (width - digits.length) '0') ++ digits

/-- The year with four digits, with a sign where it is negative or longer. -/
def renderYear (year : Int) : String :=
  if year < 0 then "-" ++ padded 4 year.natAbs
  else if 9999 < year then "+" ++ padded 4 year.natAbs
  else padded 4 year.natAbs

/-- Year, month and day between hyphens. -/
def render (d : Date) : String :=
  renderYear d.year ++ "-" ++ padded 2 d.month ++ "-" ++ padded 2 d.day

/-- The value of a row of digits. -/
def readDigits? (s : String) : Option Nat := Text.digits? s.toList

/-- The year of a text, with a sign or without. -/
def readYear? (s : String) : Option Int :=
  match s.toList with
  | '-' :: ds => (Text.digits? ds).map fun n => -(n : Int)
  | '+' :: ds => (Text.digits? ds).map Int.ofNat
  | ds => (Text.digits? ds).map Int.ofNat

/-- The date of a text that ends in month and day, behind a hyphen each. -/
def read? (s : String) : Option Date :=
  match (s.toList.splitOnP (· == '-')).reverse.map String.ofList with
  | day :: month :: year => do
    let date : Date := ⟨← readYear? (String.intercalate "-" year.reverse), ← readDigits? month,
      ← readDigits? day⟩
    if date.isValid then some date else none
  | _ => none

end Date

namespace Day

/-- The date of a day. -/
def date (d : Day) : Date :=
  let shifted := d.number + 719468
  let cycle := shifted.fdiv 146097
  let dayOfCycle := shifted.fmod 146097
  let yearOfCycle :=
    (dayOfCycle - dayOfCycle / 1460 + dayOfCycle / 36524 - dayOfCycle / 146096) / 365
  let dayOfYear := dayOfCycle - (365 * yearOfCycle + yearOfCycle / 4 - yearOfCycle / 100)
  let month := (5 * dayOfYear + 2) / 153
  let day := dayOfYear - (153 * month + 2) / 5 + 1
  let calendarMonth := if month < 10 then month + 3 else month - 9
  let year := yearOfCycle + cycle * 400
  ⟨if calendarMonth ≤ 2 then year + 1 else year, calendarMonth.toNat, day.toNat⟩

/-- The day that many days later. -/
def plus (d : Day) (days : Int) : Day := ⟨d.number + days⟩

/-- Days since the latest Monday. Day 0 was a Thursday. -/
def sinceMonday (d : Day) : Int := (d.number + 3).fmod 7

/-- The latest Monday. -/
def monday (d : Day) : Day := d.plus (-d.sinceMonday)

/-- The first day of the month. -/
def firstOfMonth (d : Day) : Day := { d.date with day := 1 }.toDay

/-- The first day of the year. -/
def firstOfYear (d : Day) : Day := (⟨d.date.year, 1, 1⟩ : Date).toDay

/-- The milliseconds of a day. -/
def millis : Int := 86400000

/-- The first instant of a day. -/
def start (d : Day) : Instant := ⟨d.number * millis⟩

/-- The date between hyphens. -/
def render (d : Day) : String := d.date.render

end Day

namespace Instant

/-- The day of an instant. -/
def day (t : Instant) : Day := ⟨t.millis.fdiv Day.millis⟩

/-- Date, hours, minutes, seconds and milliseconds. -/
def render (t : Instant) : String :=
  let rest := (t.millis.fmod Day.millis).toNat
  t.day.render ++ " " ++ Date.padded 2 (rest / 3600000) ++ ":" ++
    Date.padded 2 (rest / 60000 % 60) ++ ":" ++ Date.padded 2 (rest / 1000 % 60) ++ "." ++
    Date.padded 3 (rest % 1000)

/-- The instant that many milliseconds earlier. -/
def before (t : Instant) (millis : Int) : Instant := ⟨t.millis - millis⟩

end Instant

end DocSearch
