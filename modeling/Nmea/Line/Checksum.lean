import Nmea.Text.Basic

/-!
# Checksums

The checksum of a line is the exclusive or of the bytes between its first character and its first
`*`, in two upper-case hexadecimal digits. Any text has one, whether it is a sentence or not.
-/

namespace Nmea

/-- The exclusive or of the UTF-8 bytes of a text. -/
def xorBytes (t : Text) : UInt8 := (t.flatMap String.utf8EncodeChar).foldl (· ^^^ ·) 0

/-- The hexadecimal digit of a number below sixteen. -/
def hexDigit (n : Nat) : Char :=
  if n < 10 then Char.ofNat ('0'.toNat + n) else Char.ofNat ('A'.toNat + (n - 10))

/-- A checksum in two hexadecimal digits. -/
def hexPair (b : UInt8) : Text := [hexDigit (b.toNat / 16), hexDigit (b.toNat % 16)]

/-- The byte at which the first `*` of a text stands, or the length of the text. -/
def delimiterIndex (t : Text) : Nat := utf8Length (textBefore '*' t)

/-- The checksum of a line, with or without one in it. -/
def checksumOf (line : Text) : Text := hexPair (xorBytes ((textBefore '*' line).drop 1))

/-- A line with its own checksum in place of whatever followed its first `*`. -/
def withChecksum (line : Text) : Text := textBefore '*' line ++ '*' :: checksumOf line

theorem length_hexPair (b : UInt8) : (hexPair b).length = 2 := rfl

end Nmea
