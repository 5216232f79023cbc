import Nmea.Field.Calendar
import Nmea.Field.Degrees
import Nmea.Record.Basic

/-!
# Reading the fields of a record

A field is read as a value of a type. It may be missing, it may be empty, and it may hold a text
that is not a value of the type; each of these is an error of its own.
-/

namespace Nmea

namespace Record

/-- The text of a field that is not empty. -/
def value (r : Record) (index : Nat) : Except Error Text := do
  let text ← r.field index
  if text.isEmpty then .error (.fieldNotAvailable index) else .ok text

/-- The value of a field, of which nothing may be left over. -/
def get (α : Type) [FieldValue α] (r : Record) (index : Nat) : Except Error α := do
  let text ← r.value index
  match FieldValue.readAll text with
  | some value => .ok value
  | none       => .error (.fieldParse index text (FieldValue.name α))

/-! ### Positions -/

/-- An angle of a position is at most `limit` degrees on either side. -/
def checkRange (value limit : Double) : Except Error Unit :=
  if Binary.le (-limit) value && value.le limit then .ok ()
  else .error (.valueOutOfRange value (-limit) limit)

/-- A coordinate of a position: how far it reaches, and the letters of its two hemispheres. -/
structure Axis where
  /-- The degrees to the end on either side. -/
  limit : Double
  /-- The letter of the side where degrees are positive. -/
  positive : Char
  /-- The letter of the side where degrees are negative. -/
  negative : Char
  /-- The digits of whole degrees. -/
  width : Nat

/-- Latitude, from the South Pole to the North Pole. -/
def Axis.latitude : Axis := ⟨.ofNat 90, 'N', 'S', 2⟩

/-- Longitude, from the west to the east. -/
def Axis.longitude : Axis := ⟨.ofNat 180, 'E', 'W', 3⟩

/-- A signed angle from the field of its magnitude and the field of its hemisphere. -/
def coordinate (axis : Axis) (r : Record) (index hemisphere : Nat) : Except Error Double := do
  let text ← r.value index
  let magnitude ← match parseDegrees text with
    | some magnitude => .ok magnitude
    | none           => .error (.fieldParse index text "degrees".toList)
  checkRange magnitude axis.limit
  let letter ← r.get Char hemisphere
  if letter = axis.positive then .ok magnitude
  else if letter = axis.negative then .ok (-magnitude)
  else .error (.fieldParse hemisphere [letter] "hemisphere".toList)

/-- A signed latitude, south negative. -/
def latitude (r : Record) (index hemisphere : Nat) : Except Error Double :=
  r.coordinate .latitude index hemisphere

/-- A signed longitude, west negative. -/
def longitude (r : Record) (index hemisphere : Nat) : Except Error Double :=
  r.coordinate .longitude index hemisphere

end Record

end Nmea
