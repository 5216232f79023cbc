import Nmea.Record.Edit

/-!
# Position fixes

What receivers report: where the vessel is and when (GGA, GLL, RMC, WPL, ZDA), which satellites it
was found with (GSA, GSV), and messages to the reader (TXT).
-/

namespace Nmea

/-- Whether a field holds one given letter. -/
def Record.isLetter (r : Record) (index : Nat) (letter : Char) : Except Error Bool := do
  let found ← r.get Char index
  pure (found = letter)

/-- A signed angle from the field of its magnitude and the field of its side; west is negative and
any other letter is not. -/
def Record.variation (r : Record) (index side : Nat) : Except Error Double := do
  let magnitude ← r.get Double index
  let west ← r.isLetter side 'W'
  pure (if west then -magnitude else magnitude)

/-! ### GGA -/

namespace GGA

/-- The time of the fix. -/
def fixTime (r : Record) : Except Error TimeOfDay := r.get TimeOfDay 0

/-- The latitude, south negative. -/
def latitude (r : Record) : Except Error Double := r.latitude 1 2

/-- The longitude, west negative. -/
def longitude (r : Record) : Except Error Double := r.longitude 3 4

/-- Writes the latitude and then the longitude. -/
def setPosition (latitude longitude : Double) : Edit Unit := do
  Edit.setLatitude 1 2 latitude
  Edit.setLongitude 3 4 longitude

/-- The quality of the fix, zero if it is not valid. -/
def fixQuality (r : Record) : Except Error UInt8 := r.get UInt8 5

/-- The number of satellites in use. -/
def satelliteCount (r : Record) : Except Error UInt8 := r.get UInt8 6

/-- The horizontal dilution of precision. -/
def hdop (r : Record) : Except Error Double := r.get Double 7

/-- The altitude above mean sea level in meters. -/
def altitude (r : Record) : Except Error Double := r.get Double 8

/-- Writes the altitude in meters, and then its unit. -/
def setAltitude (meters : Double) : Edit Unit := do
  Edit.setDouble 8 meters 1 1
  Edit.setValue 9 'M'

end GGA

/-! ### GLL -/

namespace GLL

/-- The latitude, south negative. -/
def latitude (r : Record) : Except Error Double := r.latitude 0 1

/-- The longitude, west negative. -/
def longitude (r : Record) : Except Error Double := r.longitude 2 3

/-- Writes the latitude and then the longitude. -/
def setPosition (latitude longitude : Double) : Edit Unit := do
  Edit.setLatitude 0 1 latitude
  Edit.setLongitude 2 3 longitude

/-- The time of the position. -/
def fixTime (r : Record) : Except Error TimeOfDay := r.get TimeOfDay 4

/-- Whether the data are marked valid. -/
def isValid (r : Record) : Except Error Bool := r.isLetter 5 'A'

end GLL

/-! ### RMC -/

namespace RMC

/-- The time of the fix. -/
def fixTime (r : Record) : Except Error TimeOfDay := r.get TimeOfDay 0

/-- The date of the fix. -/
def fixDate (r : Record) : Except Error Date := r.get Date 8

/-- Whether the data are marked valid. -/
def isValid (r : Record) : Except Error Bool := r.isLetter 1 'A'

/-- The latitude, south negative. -/
def latitude (r : Record) : Except Error Double := r.latitude 2 3

/-- The longitude, west negative. -/
def longitude (r : Record) : Except Error Double := r.longitude 4 5

/-- The speed over ground in knots. -/
def speed (r : Record) : Except Error Double := r.get Double 6

/-- The course over ground in degrees true. -/
def course (r : Record) : Except Error Double := r.get Double 7

/-- Writes the course over ground. -/
def setCourse (degrees : Double) : Edit Unit := Edit.setDegrees 7 degrees

/-- The magnetic variation in degrees, west negative. -/
def variation (r : Record) : Except Error Double := r.variation 9 10

end RMC

/-! ### WPL -/

namespace WPL

/-- The latitude of the waypoint, south negative. -/
def latitude (r : Record) : Except Error Double := r.latitude 0 1

/-- The longitude of the waypoint, west negative. -/
def longitude (r : Record) : Except Error Double := r.longitude 2 3

/-- The id of the waypoint. -/
def waypointId (r : Record) : Except Error Text := r.value 4

end WPL

/-! ### ZDA -/

namespace ZDA

/-- The time of day. -/
def time (r : Record) : Except Error TimeOfDay := r.get TimeOfDay 0

/-- The date from the fields of day, month and four-digit year. -/
def date (r : Record) : Except Error Date := do
  let day ← r.get UInt8 1
  let month ← r.get UInt8 2
  let year ← r.get Int32 3
  match Date.ofParts? year.toInt month.toNat day.toNat with
  | some date => .ok date
  | none      => .error (.invalidFieldValue 1
      (padded 2 day.toNat ++ ',' :: padded 2 month.toNat ++ ',' :: signedPadded 4 year.toInt))

end ZDA

/-! ### GSA -/

namespace GSA

/-- The fields that hold satellite ids. -/
def slots : List Nat := List.range' 2 12

/-- The ids of the satellites in use, without the empty slots. -/
def satelliteIds (r : Record) : Except Error (List UInt8) :=
  (slots.filter r.hasValue).mapM (r.get UInt8)

/-- The position dilution of precision. -/
def pdop (r : Record) : Except Error Double := r.get Double 14

/-- The horizontal dilution of precision. -/
def hdop (r : Record) : Except Error Double := r.get Double 15

/-- The vertical dilution of precision. -/
def vdop (r : Record) : Except Error Double := r.get Double 16

end GSA

/-! ### GSV -/

namespace GSV

/-- The number of sentences of this report. -/
def sentenceCount (r : Record) : Except Error UInt8 := r.get UInt8 0

/-- The index of this sentence in the report, from one. -/
def sentenceIndex (r : Record) : Except Error UInt8 := r.get UInt8 1

/-- The number of satellites in view. -/
def satelliteCount (r : Record) : Except Error UInt8 := r.get UInt8 2

end GSV

/-! ### TXT -/

namespace TXT

/-- The text of the message. -/
def message (r : Record) : Except Error Text := r.value 3

end TXT

end Nmea
