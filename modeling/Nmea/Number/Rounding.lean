/-!
# Rounding to whole numbers

A quotient of whole numbers is rounded to the nearest whole number. What happens to a quotient
that lies halfway between two of them is a choice that the caller makes.
-/

namespace Nmea

/-- Where a half goes. -/
inductive Tie
  /-- To the even neighbour. -/
  | toEven
  /-- To the neighbour further from zero. -/
  | away
  deriving DecidableEq

/-- The whole number nearest to `n / d`. -/
def roundDiv (tie : Tie) (n d : Nat) : Nat :=
  let q := n / d
  let r := n % d
  if 2 * r < d then q
  else if d < 2 * r then q + 1
  else match tie with
    | .toEven => if q % 2 = 0 then q else q + 1
    | .away   => q + 1

/-- The whole number nearest to a rational number that is not negative. -/
def roundRat (tie : Tie) (x : Rat) : Nat := roundDiv tie x.num.toNat x.den

end Nmea
