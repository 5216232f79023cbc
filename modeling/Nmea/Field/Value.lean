import Nmea.Number.Notation
import Nmea.Number.Reading

/-!
# Values of a field

A field is text. A type of field values is read from the start of a text, which may leave a rest,
and written as a text of its own.
-/

namespace Nmea

/-- A type whose values are carried in fields. -/
class FieldValue (α : Type) where
  /-- What the type is called in messages. -/
  name : Text
  /-- The value at the start of a text, and the rest. -/
  read : Text → Option (α × Text)
  /-- The text of a value. -/
  write : α → Text

/-- The value that a whole text stands for. -/
def FieldValue.readAll {α : Type} [FieldValue α] (t : Text) : Option α :=
  match FieldValue.read t with
  | some (value, []) => some value
  | _                => none

/-! ### Characters and texts -/

instance : FieldValue Char where
  name := "char".toList
  read
    | []     => none
    | c :: t => some (c, t)
  write c := [c]

instance : FieldValue Text where
  name := "string".toList
  read t := some (t, [])
  write t := t

/-! ### Binary floating-point numbers -/

instance : FieldValue Double where
  name := "f64".toList
  read := readBinary
  write := Binary.plain

instance : FieldValue Single where
  name := "f32".toList
  read := readBinary
  write := Binary.plain

end Nmea
