import Nmea.Text.Basic

/-!
# Frames

A line holds a sentence if it is an opening character, an address of three to ten upper-case
letters or digits, a comma, a run of printable characters, and at most one line terminator. The
run holds the fields, and behind its first `*` a checksum.

`Frame.ofText?` cuts a line into these parts and `Frame.toText` puts them together.
-/

namespace Nmea

/-! ### Opening characters -/

/-- The kinds of sentence that the first character tells apart. -/
inductive Opening
  /-- A sentence of plain fields, which a dollar sign opens. -/
  | standard
  /-- A sentence that carries an encapsulated payload, which an exclamation mark opens. -/
  | encapsulation
  deriving DecidableEq

namespace Opening

/-- The character that opens a sentence. -/
def char : Opening → Char
  | .standard      => '$'
  | .encapsulation => '!'

/-- The kind of sentence that a character opens. -/
def ofChar? (c : Char) : Option Opening :=
  if c = '$' then some .standard
  else if c = '!' then some .encapsulation
  else none

@[simp] theorem ofChar?_char (o : Opening) : ofChar? o.char = some o := by
  cases o <;> rfl

theorem ofChar?_eq_some_iff {c : Char} {o : Opening} : ofChar? c = some o ↔ c = o.char := by
  constructor
  · intro h
    unfold ofChar? at h
    split at h
    · cases h; assumption
    · split at h
      · cases h; assumption
      · cases h
  · rintro rfl; simp

end Opening

/-! ### Line terminators -/

/-- The ways to end a line. -/
inductive Terminator
  /-- Carriage return and line feed. -/
  | crlf
  /-- Line feed and carriage return. -/
  | lfcr
  /-- Carriage return alone. -/
  | cr
  /-- Line feed alone. -/
  | lf
  deriving DecidableEq

namespace Terminator

/-- The characters that end a line. -/
def text : Terminator → Text
  | .crlf => ['\r', '\n']
  | .lfcr => ['\n', '\r']
  | .cr   => ['\r']
  | .lf   => ['\n']

/-- The end of a line behind its last printable character: one terminator or none, and nothing
else. -/
def ofEnd? : Text → Option (Option Terminator)
  | []           => some none
  | ['\r', '\n'] => some (some .crlf)
  | ['\n', '\r'] => some (some .lfcr)
  | ['\r']       => some (some .cr)
  | ['\n']       => some (some .lf)
  | _            => none

/-- The characters of a terminator that may be missing. -/
def endText : Option Terminator → Text
  | none   => []
  | some t => t.text

@[simp] theorem ofEnd?_endText (t : Option Terminator) : ofEnd? (endText t) = some t := by
  match t with
  | none | some .crlf | some .lfcr | some .cr | some .lf => rfl

end Terminator

/-! ### Frames -/

/-- The fewest characters of an address. -/
def minAddressLength : Nat := 3

/-- The most characters of an address. -/
def maxAddressLength : Nat := 10

/-- A text that can stand as the address of a sentence. -/
def isAddress (t : Text) : Bool :=
  minAddressLength ≤ t.length && t.length ≤ maxAddressLength && t.all isAddressChar

/-- The parts of a line that holds a sentence. -/
structure Frame where
  /-- The kind of sentence that the first character opens. -/
  opening : Opening
  /-- What stands before the first comma. -/
  address : Text
  /-- The fields with the commas between them. -/
  data : Text
  /-- What stands behind the first `*`, if there is one. -/
  checksum : Option Text
  /-- The end of the line, if it has one. -/
  terminator : Option Terminator
  deriving DecidableEq

namespace Frame

/-- The parts of a line, if it holds a sentence. -/
def ofText? : Text → Option Frame
  | []     => none
  | c :: t => do
    let opening ← Opening.ofChar? c
    let address := t.takeWhile isAddressChar
    guard (isAddress address)
    match t.dropWhile isAddressChar with
    | ',' :: body => do
      let payload := body.takeWhile isPrintable
      let terminator ← Terminator.ofEnd? (body.dropWhile isPrintable)
      pure ⟨opening, address, textBefore '*' payload, textAfter? '*' payload, terminator⟩
    | _ => none

/-- The fields and the checksum as they stand in the line. -/
def payload (f : Frame) : Text :=
  match f.checksum with
  | none          => f.data
  | some checksum => f.data ++ '*' :: checksum

/-- The line that a frame was cut from. -/
def toText (f : Frame) : Text :=
  f.opening.char :: f.address ++ ',' :: f.payload ++ Terminator.endText f.terminator

end Frame

end Nmea
