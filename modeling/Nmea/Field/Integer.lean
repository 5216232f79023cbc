import Nmea.Field.Value

/-!
# Integers in fields

The integers of a fixed width are read from a run of digits, with a sign only for the types that
have one. A run of digits that does not fit the type is no number of that type, however it goes
on.
-/

namespace Nmea

/-- The integers between two bounds, as a type of machine words. -/
class FixedWidth (α : Type) where
  /-- What the type is called in messages. -/
  name : Text
  /-- The least integer of the type. -/
  least : Int
  /-- The greatest integer of the type. -/
  greatest : Int
  /-- The integer of a word. -/
  toInt : α → Int
  /-- The word of an integer within the bounds. -/
  ofInt : Int → α

namespace FixedWidth

variable {α : Type} [FixedWidth α]

/-- The word of an integer, if the type holds it. -/
def ofInt? (n : Int) : Option α :=
  if least α ≤ n && n ≤ greatest α then some (ofInt n) else none

/-- A word at the start of a text: digits, after a sign if the type has negative numbers. -/
def read (t : Text) : Option (α × Text) :=
  let (sign, body) := if least α < 0 then spanSign t else (none, t)
  match spanDigits body with
  | ([], _)        => none
  | (digits, rest) =>
    let n : Int := digitsValue digits
    (ofInt? (if sign = some true then -n else n)).map fun word => (word, rest)

/-- The decimal text of a word. -/
def write (word : α) : Text := signedDecimal (toInt word)

end FixedWidth

instance (α : Type) [FixedWidth α] : FieldValue α where
  name := FixedWidth.name α
  read := FixedWidth.read
  write := FixedWidth.write

/-! ### The eight widths -/

instance : FixedWidth UInt8 where
  name := "u8".toList
  least := 0
  greatest := 255
  toInt n := n.toNat
  ofInt n := .ofNat n.toNat

instance : FixedWidth UInt16 where
  name := "u16".toList
  least := 0
  greatest := 65535
  toInt n := n.toNat
  ofInt n := .ofNat n.toNat

instance : FixedWidth UInt32 where
  name := "u32".toList
  least := 0
  greatest := 4294967295
  toInt n := n.toNat
  ofInt n := .ofNat n.toNat

instance : FixedWidth UInt64 where
  name := "u64".toList
  least := 0
  greatest := 18446744073709551615
  toInt n := n.toNat
  ofInt n := .ofNat n.toNat

instance : FixedWidth Int8 where
  name := "i8".toList
  least := -128
  greatest := 127
  toInt := Int8.toInt
  ofInt := Int8.ofInt

instance : FixedWidth Int16 where
  name := "i16".toList
  least := -32768
  greatest := 32767
  toInt := Int16.toInt
  ofInt := Int16.ofInt

instance : FixedWidth Int32 where
  name := "i32".toList
  least := -2147483648
  greatest := 2147483647
  toInt := Int32.toInt
  ofInt := Int32.ofInt

instance : FixedWidth Int64 where
  name := "i64".toList
  least := -9223372036854775808
  greatest := 9223372036854775807
  toInt := Int64.toInt
  ofInt := Int64.ofInt

end Nmea
