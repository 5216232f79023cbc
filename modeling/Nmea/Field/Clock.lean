import Nmea.Field.Integer

/-!
# Times of day

A time of day is written as two digits each for hour, minute and second, with milliseconds behind
a point. It is read from two pieces of two characters and a decimal number of seconds, which is
rounded to milliseconds.
-/

namespace Nmea

/-- A time of day to the nanosecond. -/
structure TimeOfDay where
  /-- The hour. -/
  hour : Nat
  /-- The minute. -/
  minute : Nat
  /-- The second. -/
  second : Nat
  /-- The nanosecond. -/
  nanosecond : Nat
  hour_lt : hour < 24
  minute_lt : minute < 60
  second_lt : second < 60
  nanosecond_lt : nanosecond < 1000000000
  deriving DecidableEq

namespace TimeOfDay

/-- The time of day with these parts, if there is one. -/
def ofParts? (hour minute second nanosecond : Nat) : Option TimeOfDay :=
  if h : hour < 24 ∧ minute < 60 ∧ second < 60 ∧ nanosecond < 1000000000 then
    some ⟨hour, minute, second, nanosecond, h.1, h.2.1, h.2.2.1, h.2.2.2⟩
  else none

/-- The whole milliseconds beyond the second. -/
def millisecond (t : TimeOfDay) : Nat := t.nanosecond / 1000000

/-- The greatest number of milliseconds that a reading is cut off at. -/
def mostMilliseconds : Nat := 4294967295

/-- The milliseconds in a number of seconds. -/
def milliseconds (seconds : Double) : Nat := (seconds * .ofNat 1000).toNatWithin mostMilliseconds

/-- The digits at the start of the first two characters, whatever follows them there, and what
comes after the two. -/
def readPair : Text → Option (UInt8 × Text)
  | a :: b :: t => (FieldValue.read [a, b]).map fun (n, _) => (n, t)
  | _           => none

/-- A time of day at the start of a text, and the rest. Seconds count modulo 256, as a byte does,
before they are checked. -/
def read (t : Text) : Option (TimeOfDay × Text) := do
  let (hour, t) ← readPair t
  let (minute, t) ← readPair t
  let (seconds, t) ← readBinary t
  if seconds.isNegative then none
  else
    let ms := milliseconds seconds
    let time ← ofParts? hour.toNat minute.toNat (ms / 1000 % 256) (ms % 1000 * 1000000)
    pure (time, t)

/-- The text of a time of day, to the millisecond. -/
def write (t : TimeOfDay) : Text :=
  padded 2 t.hour ++ padded 2 t.minute ++ padded 2 t.second ++ '.' :: padded 3 t.millisecond

end TimeOfDay

instance : FieldValue TimeOfDay where
  name := "time".toList
  read := TimeOfDay.read
  write := TimeOfDay.write

end Nmea
