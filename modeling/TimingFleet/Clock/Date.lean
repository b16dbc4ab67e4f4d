import TimingFleet.Text.Numeral

/-!
# Calendar dates from seconds

Seconds since 1970-01-01 00:00:00 UTC become a moment of the proleptic Gregorian calendar, as far as the
calendar goes.  A cycle of four hundred years has 146097 days.  Years are counted from March, so that a
leap day is the last day of its year.
-/

namespace TimingFleet

open Text

/-- A day of the calendar. -/
structure Date where
  year : Nat
  month : Nat
  day : Nat
  deriving DecidableEq, Repr

/-- A moment of a day. -/
structure TimeOfDay where
  hour : Nat
  minute : Nat
  second : Nat
  deriving DecidableEq, Repr

namespace Date

/-- Days from the first of March of the year 0 to the first of January 1970. -/
def epochOffset : Nat := 719468

/-- The year within a cycle in which day `d` of the cycle falls, counted from March. -/
def yearOfCycle (d : Nat) : Nat := (d - d / 1460 + d / 36524 - d / 146096) / 365

/-- Days of a cycle before year `y` of it begins. -/
def daysBeforeYear (y : Nat) : Nat := 365 * y + y / 4 - y / 100

/-- Days of a year, counted from March, before month `m` of it begins; March is month 0. -/
def daysBeforeMonth (m : Nat) : Nat := (153 * m + 2) / 5

/-- The date `days` days after 1970-01-01. -/
def ofDays (days : Nat) : Date :=
  let z := days + epochOffset
  let cycle := z / 146097
  let d := z % 146097
  let y := yearOfCycle d
  let dayOfYear := d - daysBeforeYear y
  let m := (5 * dayOfYear + 2) / 153
  let day := dayOfYear - daysBeforeMonth m + 1
  let month := if m < 10 then m + 3 else m - 9
  ⟨400 * cycle + y + (if month ≤ 2 then 1 else 0), month, day⟩

/-- The same, in a calendar that ends with the year `lastYear`. -/
def ofDays? (lastYear days : Nat) : Option Date :=
  let date := ofDays days
  if date.year ≤ lastYear then some date else none

/-- The year with at least four digits, and with a sign from the year 10000 on. -/
def yearText (year : Nat) : String :=
  if year ≤ 9999 then Numeral.padded 4 year else "+" ++ Numeral.decimal year

/-- Year, month and day with hyphens between them. -/
def text (d : Date) : String :=
  yearText d.year ++ "-" ++ Numeral.padded 2 d.month ++ "-" ++ Numeral.padded 2 d.day

end Date

namespace TimeOfDay

/-- The moment `seconds` seconds after midnight. -/
def ofSeconds (seconds : Nat) : TimeOfDay :=
  ⟨seconds / 3600, seconds / 60 % 60, seconds % 60⟩

/-- Hour, minute and second with colons between them. -/
def text (t : TimeOfDay) : String :=
  Numeral.padded 2 t.hour ++ ":" ++ Numeral.padded 2 t.minute ++ ":" ++ Numeral.padded 2 t.second

end TimeOfDay

/-- A moment of a day of the calendar. -/
structure Moment where
  date : Date
  time : TimeOfDay
  deriving DecidableEq, Repr

namespace Moment

/-- The moment `seconds` seconds after 1970-01-01 00:00:00, in a calendar that counts seconds in sixty-four
bits with a sign and ends with the year `lastYear`. -/
def ofSeconds? (lastYear seconds : Nat) : Option Moment :=
  if seconds < 0x8000000000000000 then
    (Date.ofDays? lastYear (seconds / 86400)).map fun date =>
      ⟨date, TimeOfDay.ofSeconds (seconds % 86400)⟩
  else none

/-- Date, time and time zone with blanks between them. -/
def text (m : Moment) : String := m.date.text ++ " " ++ m.time.text ++ " UTC"

end Moment

end TimingFleet
