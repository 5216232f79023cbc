import Nmea.Text.Basic

/-!
# Whole numbers in text

Numbers are written in decimal digits without leading zeros, or padded with zeros to a least
width, and read back from a run of digits.
-/

namespace Nmea

/-- The decimal digits of a number. -/
def decimal (n : Nat) : Text := Nat.toDigits 10 n

/-- The decimal digits of a number, padded with zeros to at least `width` characters. -/
def padded (width n : Nat) : Text := List.leftpad width '0' (decimal n)

/-- A whole number with its sign, where only a minus is written. -/
def signedDecimal (n : Int) : Text :=
  if n < 0 then '-' :: decimal n.natAbs else decimal n.natAbs

/-- A whole number padded with zeros between the sign and the digits; the sign counts. -/
def signedPadded (width : Nat) (n : Int) : Text :=
  if n < 0 then '-' :: padded (width - 1) n.natAbs else padded width n.natAbs

/-- The number that a run of decimal digits stands for. -/
def digitsValue (digits : Text) : Nat := Nat.ofDigitChars 10 digits 0

theorem digitsValue_decimal (n : Nat) : digitsValue (decimal n) = n :=
  Nat.ofDigitChars_toDigits (by decide) (by decide)

/-- The leading run of decimal digits of a text, and the rest. -/
def spanDigits (t : Text) : Text × Text := t.span Char.isDigit

end Nmea
