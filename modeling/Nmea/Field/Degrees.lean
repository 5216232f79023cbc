import Nmea.Field.Integer

/-!
# Degrees and minutes

An angle is written as whole degrees followed by two digits of minutes and their decimals. The
degrees reach up to two digits left of the point.
-/

namespace Nmea

/-- One degree in thousandths of a minute. -/
def thousandthsPerDegree : Nat := 60000

/-- The greatest number of thousandths that an angle is cut off at. -/
def mostThousandths : Nat := 18446744073709551615

/-- The number of characters before the first point, or of all of them. -/
def pointIndex (t : Text) : Nat := (textBefore '.' t).length

/-- The degrees that a text of degrees and minutes stands for. The minutes start with two digits
and are below sixty; without degrees there are none of them. -/
def parseDegrees (t : Text) : Option Double := do
  guard (t.all fun c => c.toNat < 128)
  let point := pointIndex t
  guard (2 ≤ point)
  let (degrees, minutes) := t.splitAt (point - 2)
  let degrees ← if degrees.isEmpty then some (0 : UInt16) else FieldValue.readAll degrees
  guard ((minutes.take 2).all Char.isDigit)
  let minutes : Double ← FieldValue.readAll minutes
  guard (Binary.le (.ofNat 0) minutes && minutes.lt (.ofNat 60))
  pure (.ofNat degrees.toNat + minutes / .ofNat 60)

/-- The thousandths of a minute in an angle, whatever its sign. Rounding happens here and nowhere
else, so that almost sixty minutes carry into the degrees. -/
def toThousandths (degrees : Double) : Nat :=
  (degrees.abs * .ofNat thousandthsPerDegree).toNatWithin mostThousandths

/-- The text of an angle without its sign, the degrees padded to `width` digits. -/
def formatDegrees (width : Nat) (degrees : Double) : Text :=
  let n := toThousandths degrees
  let minutes : Double := .ofNat (n % thousandthsPerDegree) / .ofNat 1000
  padded width (n / thousandthsPerDegree) ++
    List.leftpad 6 '0' (fixed 3 (minutes.magnitude?.getD 0))

/-- The text of the magnitude of a latitude. -/
def formatLatitude (degrees : Double) : Text := formatDegrees 2 degrees

/-- The text of the magnitude of a longitude. -/
def formatLongitude (degrees : Double) : Text := formatDegrees 3 degrees

end Nmea
