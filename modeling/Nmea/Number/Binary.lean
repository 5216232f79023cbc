import Nmea.Number.Rounding

/-!
# Binary floating-point numbers

The numbers of a binary interchange format: a zero with either sign, the multiples of a power of
two that the format can hold, two infinities, and one value for what is not a number.

The magnitudes of a format are counted from zero upward. The count of a magnitude, its rank, is
what a machine word holds beside the sign, so that the order of the magnitudes is the order of the
ranks, the neighbours of a number are the ranks beside its own, and rounding may carry from one
power of two into the next by plain addition. Every operation computes the exact rational result
and rounds it once.
-/

namespace Nmea

/-! ### Formats -/

/-- The widths of a binary interchange format. -/
structure Format where
  /-- The width of the exponent field. -/
  exponentBits : Nat
  /-- The width of the fraction field, which is one less than the bits of a full significand. -/
  fractionBits : Nat
  deriving DecidableEq

/-- The format of 64 bits. -/
def Format.binary64 : Format := ⟨11, 52⟩

/-- The format of 32 bits. -/
def Format.binary32 : Format := ⟨8, 23⟩

/-- How many magnitudes in a row share one exponent. -/
def Format.binade (f : Format) : Nat := Nat.pow 2 f.fractionBits

/-- The number of finite magnitudes, which is also the rank of infinity. -/
def Format.finiteCount (f : Format) : Nat := (Nat.pow 2 f.exponentBits - 1) * f.binade

/-- The first power of two, by exponent, that is beyond the finite magnitudes. -/
def Format.topExponent (f : Format) : Nat := Nat.pow 2 (f.exponentBits - 1)

/-- The exponent of the smallest magnitude above zero. -/
def Format.minExponent (f : Format) : Int := 2 - (f.topExponent : Int) - f.fractionBits

/-- The significand of a rank: below the first full binade the rank itself, above it the position
in its binade with the leading bit restored. -/
def Format.significand (f : Format) (rank : Nat) : Nat :=
  if rank < f.binade then rank else f.binade + rank % f.binade

/-- The exponent of a rank; the two lowest binades share one. -/
def Format.exponent (f : Format) (rank : Nat) : Int :=
  f.minExponent + ((rank / f.binade - 1 : Nat) : Int)

/-- The magnitude of a rank. -/
def Format.magnitude (f : Format) (rank : Nat) : Rat :=
  f.significand rank * (2 : Rat) ^ f.exponent rank

/-- The exponent of the highest power of two that is not above a positive number. -/
def leadingExponent (x : Rat) : Int :=
  let guess : Int := (x.num.toNat.log2 : Int) - x.den.log2
  if (2 : Rat) ^ guess ≤ x then guess else guess - 1

/-- The rank of the magnitude nearest to `x`, of two the even one. A result of `finiteCount` or
more lies beyond the finite magnitudes. -/
def Format.nearest (f : Format) (x : Rat) : Nat :=
  if x ≤ 0 then 0
  else
    let exponent := max f.minExponent (leadingExponent x - f.fractionBits)
    (exponent - f.minExponent).toNat * f.binade + roundRat .toEven (x / (2 : Rat) ^ exponent)

/-! ### Numbers -/

/-- A number of a format. -/
inductive Binary (f : Format)
  /-- Not a number. -/
  | nan
  /-- Beyond the finite numbers, on one side or the other. -/
  | infinite (negative : Bool)
  /-- A sign and the rank of a magnitude. -/
  | finite (negative : Bool) (rank : Fin f.finiteCount)
  deriving DecidableEq

/-- A number of 64 bits. -/
abbrev Double := Binary .binary64

/-- A number of 32 bits. -/
abbrev Single := Binary .binary32

namespace Binary

variable {f : Format}

/-- The number nearest to a magnitude with a sign; a magnitude that the format cannot hold becomes
an infinity. -/
def round (negative : Bool) (x : Rat) : Binary f :=
  let rank := f.nearest x
  if h : rank < f.finiteCount then .finite negative ⟨rank, h⟩ else .infinite negative

/-- The number nearest to a rational number; zero is positive. -/
def ofRat (x : Rat) : Binary f := if x < 0 then round true (-x) else round false x

/-- The number nearest to a whole number. -/
def ofNat (n : Nat) : Binary f := round false n

/-- The sign; what is not a number has none. -/
def isNegative : Binary f → Bool
  | .nan               => false
  | .infinite negative => negative
  | .finite negative _ => negative

/-- The distance from zero of a finite number. -/
def magnitude? : Binary f → Option Rat
  | .finite _ rank => some (f.magnitude rank)
  | _              => none

/-- The exact value of a finite number. -/
def toRat? : Binary f → Option Rat
  | .finite negative rank => some (if negative then -f.magnitude rank else f.magnitude rank)
  | _                     => none

/-! ### Sign and order -/

/-- The number on the other side of zero. -/
def neg : Binary f → Binary f
  | .nan                  => .nan
  | .infinite negative    => .infinite !negative
  | .finite negative rank => .finite (!negative) rank

instance : Neg (Binary f) := ⟨neg⟩

/-- The number without its sign. -/
def abs : Binary f → Binary f
  | .nan           => .nan
  | .infinite _    => .infinite false
  | .finite _ rank => .finite false rank

/-- The place of a number among all numbers; both zeros have place zero. -/
def place : Binary f → Option Int
  | .nan                  => none
  | .infinite negative    => some (if negative then -f.finiteCount else f.finiteCount)
  | .finite negative rank => some (if negative then -(rank : Nat) else (rank : Nat))

/-- The order of the numbers, in which what is not a number takes no part. -/
def le (a b : Binary f) : Bool :=
  match a.place, b.place with
  | some x, some y => x ≤ y
  | _, _           => false

/-- The strict order of the numbers. -/
def lt (a b : Binary f) : Bool :=
  match a.place, b.place with
  | some x, some y => x < y
  | _, _           => false

/-! ### Arithmetic -/

/-- The sum, rounded once. A sum of zero is negative only if both terms are. -/
def add : Binary f → Binary f → Binary f
  | .nan, _ | _, .nan             => .nan
  | .infinite s, .infinite t      => if s = t then .infinite s else .nan
  | .infinite s, .finite _ _      => .infinite s
  | .finite _ _, .infinite t      => .infinite t
  | .finite s i, .finite t j      =>
    let x := (if s then -f.magnitude i else f.magnitude i) +
      (if t then -f.magnitude j else f.magnitude j)
    if x = 0 then round (s && t) 0 else ofRat x

instance : Add (Binary f) := ⟨add⟩

/-- The product, rounded once. -/
def mul : Binary f → Binary f → Binary f
  | .nan, _ | _, .nan        => .nan
  | .infinite s, .infinite t => .infinite (s ^^ t)
  | .infinite s, .finite t j => if (j : Nat) = 0 then .nan else .infinite (s ^^ t)
  | .finite s i, .infinite t => if (i : Nat) = 0 then .nan else .infinite (s ^^ t)
  | .finite s i, .finite t j => round (s ^^ t) (f.magnitude i * f.magnitude j)

instance : Mul (Binary f) := ⟨mul⟩

/-- The quotient, rounded once. -/
def div : Binary f → Binary f → Binary f
  | .nan, _ | _, .nan        => .nan
  | .infinite _, .infinite _ => .nan
  | .infinite s, .finite t _ => .infinite (s ^^ t)
  | .finite s _, .infinite t => round (s ^^ t) 0
  | .finite s i, .finite t j =>
    if (j : Nat) = 0 then
      if (i : Nat) = 0 then .nan else .infinite (s ^^ t)
    else round (s ^^ t) (f.magnitude i / f.magnitude j)

instance : Div (Binary f) := ⟨div⟩

/-- The nearest whole number, a half going away from zero, cut off at zero and at `limit`; what is
not a number counts as zero. -/
def toNatWithin (limit : Nat) : Binary f → Nat
  | .nan                  => 0
  | .infinite negative    => if negative then 0 else limit
  | .finite negative rank =>
    if negative then 0 else min limit (roundRat .away (f.magnitude rank))

end Binary

end Nmea
