import Nmea.Address.Basic
import Nmea.Log

/-!
# Records

A record is a sentence taken apart: what opens it, its talker, its id, and its fields in order. An
empty field means that a value is not available.

`Record.parseWith` reads a record from a line, and `Record.toText` writes the line of a record,
always with the checksum that it ought to have and without a terminator.
-/

namespace Nmea

/-- A sentence taken apart. -/
structure Record where
  /-- What opens the sentence. -/
  opening : Opening
  /-- The device that sends it. -/
  talker : Talker
  /-- The sentence id. -/
  id : Text
  /-- The fields. -/
  fields : List Text
  deriving DecidableEq

namespace Record

/-! ### Reading -/

/-- The record of a frame, if its address has a talker. -/
def ofFrame? (f : Frame) : Option Record :=
  (splitAddress? f.address).map fun (talker, id) =>
    ⟨f.opening, talker, id, f.data.splitOn ','⟩

/-- The record of a line that a validator accepts. -/
def parseWith (v : Validator) (raw : Text) : Logged (Except Error Record) := do
  let frame ← v.report raw (v.checkedFrame raw)
  match frame.bind ofFrame? with
  | some record => pure (.ok record)
  | none        => pure (.error (.malformedSentence raw))

/-- The record of a line under no further policies. -/
def parse (raw : Text) : Logged (Except Error Record) := parseWith {} raw

/-- A record that has the expected sentence id. -/
def expecting (id : Text) (record : Record) : Except Error Record :=
  if record.id = id then .ok record else .error (.sentenceIdMismatch id record.id)

/-- The record of a line that a validator accepts and that has the expected sentence id. -/
def parseExpecting (v : Validator) (id raw : Text) : Logged (Except Error Record) := do
  let record ← parseWith v raw
  pure (record.bind (expecting id))

/-! ### Building -/

/-- A record with empty fields, at least one of them. -/
def blank (opening : Opening) (talker : Talker) (id : Text) (count : Nat) : Record :=
  ⟨opening, talker, id, List.replicate (max count 1) []⟩

/-- A record with empty fields, if the talker and the id make an address. -/
def new (opening : Opening) (talker : Talker) (id : Text) (count : Nat) : Except Error Record :=
  if isAddressPair talker id then .ok (blank opening talker id count)
  else .error (.invalidAddress (addressOf talker id))

/-! ### Writing -/

/-- What stands between the opening character and the checksum. -/
def body (r : Record) : Text :=
  addressOf r.talker r.id ++ r.fields.flatMap fun field => ',' :: field

/-- The line of a record, with its checksum. -/
def toText (r : Record) : Text :=
  r.opening.char :: r.body ++ '*' :: hexPair (xorBytes r.body)

/-- The length of a line in bytes, with the two characters that end it. -/
def lineLength (text : Text) : Nat := utf8Length text + 2

/-- The most bytes that the standard allows to a line. -/
def maxLength : Nat := 82

/-- The line of a record if it is not too long. -/
def toTextWithin (limit : Nat) (r : Record) : Except Error Text :=
  let text := r.toText
  if lineLength text ≤ limit then .ok text else .error (.sentenceTooLong (lineLength text) limit)

/-- Whether the line of a record is no longer than the standard allows. -/
def fitsMaxLength (r : Record) : Bool := (r.toTextWithin maxLength).isOk

/-- Two records are written alike. -/
def sameText (r s : Record) : Bool := r.toText = s.toText

/-! ### Parts -/

/-- A sentence of the makers of a device. -/
def isProprietary (r : Record) : Bool := r.talker.isProprietary

/-- A sentence that carries an encapsulated payload. -/
def isEncapsulation (r : Record) : Bool := r.opening = .encapsulation

/-- The number of fields. -/
def count (r : Record) : Nat := r.fields.length

/-- The error that there is no such field. -/
def outOfRange (r : Record) (index : Nat) : Error := .indexOutOfRange index r.count

/-- The text of a field, which may be empty. -/
def field (r : Record) (index : Nat) : Except Error Text :=
  match r.fields[index]? with
  | some text => .ok text
  | none      => .error (r.outOfRange index)

/-- The fields from one on; there are none just behind the last. -/
def fieldsFrom (r : Record) (first : Nat) : Except Error (List Text) :=
  if first ≤ r.count then .ok (r.fields.drop first) else .error (r.outOfRange first)

/-- Whether a field is there and not empty. -/
def hasValue (r : Record) (index : Nat) : Bool := r.fields[index]?.any (!·.isEmpty)

end Record

/-! ### Lines without their fields -/

/-- The talker and the sentence id of a line that has the shape of a sentence. -/
def addressOfLine (raw : Text) : Logged (Option (Talker × Text)) := do
  let frame ← Validator.report {} raw (Validator.frame {} raw)
  pure (frame.bind fun f => splitAddress? f.address)

/-- The sentence id of a line that has the shape of a sentence. -/
def sentenceIdOf (raw : Text) : Logged (Option Text) := do
  let address ← addressOfLine raw
  pure (address.map Prod.snd)

/-- The talker of a line that has the shape of a sentence. -/
def talkerOf (raw : Text) : Logged (Option Talker) := do
  let address ← addressOfLine raw
  pure (address.map Prod.fst)

end Nmea
