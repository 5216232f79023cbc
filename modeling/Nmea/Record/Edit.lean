import Nmea.Record.Read

/-!
# Changing records

An edit changes a record and may fail. It keeps what it had changed before it failed, so that an
edit of several fields can stop half way.
-/

namespace Nmea

/-- A change of a record that may fail and then keeps what was changed so far. -/
abbrev Edit (α : Type) := ExceptT Error (StateM Record) α

namespace Edit

/-- What an edit answers, and the record after it. -/
def apply {α : Type} (e : Edit α) (r : Record) : Except Error α × Record := e r

/-- A check that does not look at the record. -/
def check {α : Type} (x : Except Error α) : Edit α := fun r => (x, r)

/-! ### One field -/

/-- A text that no field can carry is an error. -/
def checkFieldText (index : Nat) (text : Text) : Except Error Unit :=
  if isFieldText text then .ok () else .error (.invalidFieldValue index text)

/-- Writes a text into a field. Whether any field could carry it is looked at first. -/
def setField (index : Nat) (text : Text) : Edit Unit := do
  check (checkFieldText index text)
  let r ← get
  if index < r.count then set { r with fields := r.fields.set index text }
  else throw (r.outOfRange index)

/-- Writes a value into a field. -/
def setValue {α : Type} [FieldValue α] (index : Nat) (value : α) : Edit Unit :=
  setField index (FieldValue.write value)

/-- Writes an integer, padded with zeros to at least `leading` characters. -/
def setInt (index : Nat) (value : Int32) (leading : Nat) : Edit Unit :=
  setField index (signedPadded leading value.toInt)

/-- The text of a magnitude and a sign with fixed decimals, padded with zeros to at least `leading`
digits before the point. A number whose digits are all zero has no sign. -/
def fixedText (negative : Bool) (magnitude : Rat) (leading decimals : Nat) : Text :=
  let width := if decimals = 0 then leading else leading + decimals + 1
  let digits := List.leftpad width '0' (fixed decimals magnitude)
  if negative && digits.any (fun c => '1' ≤ c && c ≤ '9') then '-' :: digits else digits

/-- Writes a number with fixed decimals. Only finite numbers can be written. -/
def setDouble (index : Nat) (value : Double) (leading decimals : Nat) : Edit Unit :=
  match value.magnitude? with
  | some magnitude => setField index (fixedText value.isNegative magnitude leading decimals)
  | none           => throw (.invalidFieldValue index value.plain)

/-- A full turn in degrees. -/
def fullTurn : Double := .ofNat 360

/-- Writes an angle between zero and a full turn, with three digits and one decimal. -/
def setDegrees (index : Nat) (value : Double) : Edit Unit :=
  if Binary.le (.ofNat 0) value && value.le fullTurn then setDouble index value 3 1
  else throw (.valueOutOfRange value (.ofNat 0) fullTurn)

/-! ### Positions -/

/-- Writes the magnitude of an angle, and then the letter of its hemisphere. -/
def setCoordinate (axis : Record.Axis) (index hemisphere : Nat) (value : Double) : Edit Unit := do
  check (Record.checkRange value axis.limit)
  setField index (formatDegrees axis.width value)
  setValue hemisphere (if value.lt (.ofNat 0) then axis.negative else axis.positive)

/-- Writes a latitude. -/
def setLatitude (index hemisphere : Nat) (value : Double) : Edit Unit :=
  setCoordinate .latitude index hemisphere value

/-- Writes a longitude. -/
def setLongitude (index hemisphere : Nat) (value : Double) : Edit Unit :=
  setCoordinate .longitude index hemisphere value

/-! ### All fields -/

/-- The fields with at least one among them. -/
def nonempty : List Text → List Text
  | []     => [[]]
  | fields => fields

/-- The first value that no field can carry is an error under the index it would have. -/
def checkValues (first : Nat) : List Text → Except Error Unit
  | []          => .ok ()
  | text :: rest => do
    checkFieldText first text
    checkValues (first + 1) rest

/-- Replaces the fields from one on. -/
def setValues (first : Nat) (values : List Text) : Edit Unit := do
  let r ← get
  if r.count < first then throw (r.outOfRange first)
  else
    check (checkValues first values)
    set { r with fields := nonempty (r.fields.take first ++ values) }

/-- Cuts the fields off or adds empty ones; at least one is kept. -/
def resize (count : Nat) : Edit Unit :=
  modify fun r =>
    let count := max count 1
    { r with fields := r.fields.take count ++ List.replicate (count - r.count) [] }

/-- Empties all fields. -/
def reset : Edit Unit := modify fun r => { r with fields := r.fields.map fun _ => [] }

/-! ### The address -/

/-- Changes what opens the sentence. -/
def setOpening (opening : Opening) : Edit Unit := modify fun r => { r with opening }

/-- Changes the talker, if it makes an address with the sentence id. -/
def setTalker (talker : Talker) : Edit Unit := do
  let r ← get
  if isAddressPair talker r.id then set { r with talker }
  else throw (.invalidAddress (addressOf talker r.id))

end Edit

end Nmea
