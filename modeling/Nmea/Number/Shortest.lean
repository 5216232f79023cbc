import Nmea.Number.Binary
import Nmea.Text.Numeral

/-!
# Shortest decimal digits

Of all decimal numbers that are read back as a given binary number, the one with the fewest digits
is chosen; of several, the nearest; of two that are equally near, the larger.
-/

namespace Nmea

/-- A decimal number: the digits after the point of a number below one, and the power of ten that
it is multiplied with. -/
structure Decimal where
  /-- The digits, without zeros at either end. -/
  digits : Text
  /-- The number is `0.digits` times ten to this power. -/
  point  : Int
  deriving DecidableEq

/-- The exponent of the highest power of ten that is not above a positive number. -/
def leadingTen (x : Rat) : Int :=
  if 1 ≤ x then
    ((decimal x.floor.toNat).length : Int) - 1
  else
    let guess : Int := -((decimal x⁻¹.floor.toNat).length : Int)
    if (10 : Rat) ^ (guess + 1) ≤ x then guess + 1 else guess

/-- The decimal number `n` times ten to the power `exponent`, with the zeros at its end dropped. -/
def Decimal.ofScaled (n : Nat) (exponent : Int) : Decimal :=
  let written := decimal n
  let kept := (written.reverse.dropWhile (· = '0')).reverse
  ⟨kept, written.length + exponent⟩

/-- The numbers that are rounded to the magnitude of a rank: those between the middles towards its
two neighbours, with the middles themselves if the rank is even. -/
def Format.rounds (f : Format) (rank : Nat) (x : Rat) : Bool :=
  let low := (f.magnitude (rank - 1) + f.magnitude rank) / 2
  let high := (f.magnitude rank + f.magnitude (rank + 1)) / 2
  if rank % 2 = 0 then low ≤ x && x ≤ high else low < x && x < high

/-- The decimal number with `count` digits that is nearest to a magnitude among those that are
rounded to it. -/
def Format.withDigits? (f : Format) (rank count : Nat) : Option Decimal :=
  let x := f.magnitude rank
  let exponent := leadingTen x - count + 1
  let unit := (10 : Rat) ^ exponent
  let below := (x / unit).floor.toNat
  let low := below * unit
  let high := (below + 1) * unit
  match f.rounds rank low, f.rounds rank high with
  | true,  true  => some (.ofScaled (if x - low < high - x then below else below + 1) exponent)
  | true,  false => some (.ofScaled below exponent)
  | false, true  => some (.ofScaled (below + 1) exponent)
  | false, false => none

/-- The shortest decimal number that is rounded to the magnitude of a rank above zero. -/
def Format.shortest (f : Format) (rank : Nat) : Decimal :=
  ((List.range' 1 (f.fractionBits + 2)).findSome? (f.withDigits? rank)).getD ⟨[], 0⟩

end Nmea
