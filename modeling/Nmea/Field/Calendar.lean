import Nmea.Field.Clock

/-!
# Calendar dates

A date is written as two digits each for day, month and year. Two digits of a year stand for a
year from 1983 to 2082.
-/

namespace Nmea

/-! ### The calendar -/

/-- Years of 366 days. -/
def isLeapYear (year : Int) : Bool := year % 4 = 0 && (year % 100 ≠ 0 || year % 400 = 0)

/-- The number of days of a month, or zero if there is no such month. -/
def daysIn (year : Int) (month : Nat) : Nat :=
  match month with
  | 1 | 3 | 5 | 7 | 8 | 10 | 12 => 31
  | 4 | 6 | 9 | 11              => 30
  | 2                           => if isLeapYear year then 29 else 28
  | _                           => 0

/-- A date of the Gregorian calendar, with a year of at most four digits. -/
structure Date where
  /-- The year. -/
  year : Int
  /-- The month. -/
  month : Nat
  /-- The day of the month. -/
  day : Nat
  year_ge : -9999 ≤ year
  year_le : year ≤ 9999
  day_pos : 0 < day
  day_le : day ≤ daysIn year month
  deriving DecidableEq

namespace Date

/-- The date with these parts, if there is one. -/
def ofParts? (year : Int) (month day : Nat) : Option Date :=
  if h : -9999 ≤ year ∧ year ≤ 9999 ∧ 0 < day ∧ day ≤ daysIn year month then
    some ⟨year, month, day, h.1, h.2.1, h.2.2.1, h.2.2.2⟩
  else none

/-! ### Six digits -/

/-- The year that two digits stand for. -/
def yearOfPair (pair : Nat) : Int := if 83 ≤ pair && pair ≤ 99 then 1900 + pair else 2000 + pair

/-- A date at the start of a text, and the rest. -/
def read (t : Text) : Option (Date × Text) := do
  let (day, t) ← TimeOfDay.readPair t
  let (month, t) ← TimeOfDay.readPair t
  let (year, t) ← TimeOfDay.readPair t
  let date ← ofParts? (yearOfPair year.toNat) month.toNat day.toNat
  pure (date, t)

/-- The text of a date, in which the century is lost. -/
def write (d : Date) : Text :=
  padded 2 d.day ++ padded 2 d.month ++ padded 2 (d.year % 100).toNat

end Date

instance : FieldValue Date where
  name := "date".toList
  read := Date.read
  write := Date.write

end Nmea
