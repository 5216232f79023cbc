import Nmea.Number.Binary
import Nmea.Text.Numeral

/-!
# Reading decimal numbers

A decimal number is a run of digits with at most one point, and perhaps a power of ten. It stands
for the binary number nearest to it. Powers of ten so large or so small that the result cannot be
finite, or cannot be above zero, are recognised before anything of that size is computed.
-/

namespace Nmea

/-- The binary number nearest to `digits` times ten to the power `exponent`. -/
def Binary.ofDecimal {f : Format} (negative : Bool) (digits : Text) (exponent : Int) : Binary f :=
  let digits := digits.dropWhile (· = '0')
  let scale : Int := exponent + digits.length
  if digits.isEmpty then .round negative 0
  else if (f.topExponent : Int) ≤ 3 * (scale - 1) then .infinite negative
  else if 3 * scale < f.minExponent then .round negative 0
  else .round negative (digitsValue digits * (10 : Rat) ^ exponent)

/-! ### Parts of a decimal number -/

/-- A sign in front of a number, if there is one, and the rest. -/
def spanSign : Text → Option Bool × Text
  | '+' :: t => (some false, t)
  | '-' :: t => (some true, t)
  | t        => (none, t)

/-- The digits before and after a point: digits with a point and more digits behind them if there
are any, or a point with digits behind it. -/
def readMantissa (t : Text) : Option ((Text × Text) × Text) :=
  match spanDigits t with
  | ([], '.' :: rest) =>
    match spanDigits rest with
    | ([], _)          => none
    | (fraction, rest) => some (([], fraction), rest)
  | ([], _)              => none
  | (whole, '.' :: rest) =>
    let (fraction, rest) := spanDigits rest
    some ((whole, fraction), rest)
  | (whole, rest)        => some ((whole, []), rest)

/-- A power of ten behind the letter `e`, which once begun must have digits. -/
def readExponent : Text → Option (Int × Text)
  | c :: t =>
    if c = 'e' || c = 'E' then
      let (sign, t) := spanSign t
      match spanDigits t with
      | ([], _)        => none
      | (digits, rest) =>
        let n : Int := digitsValue digits
        some (if sign = some true then -n else n, rest)
    else some (0, c :: t)
  | [] => some (0, [])

/-- A text that starts with a word, in capitals or not: what follows the word. -/
def afterWord? (word t : Text) : Option Text :=
  if (t.take word.length).map Char.toLower = word then some (t.drop word.length) else none

/-- The names of the numbers that have no digits. -/
def readNamed {f : Format} (t : Text) : Option (Binary f × Text) :=
  if let some rest := afterWord? "nan".toList t then some (.nan, rest)
  else if let some rest := afterWord? "infinity".toList t then some (.infinite false, rest)
  else if let some rest := afterWord? "inf".toList t then some (.infinite false, rest)
  else none

/-- A binary number at the start of a text, and the rest. A number without digits has no sign. -/
def readBinary {f : Format} (t : Text) : Option (Binary f × Text) :=
  let (sign, body) := spanSign t
  match readMantissa body with
  | some ((whole, fraction), rest) => do
    let (exponent, rest) ← readExponent rest
    pure (.ofDecimal (sign = some true) (whole ++ fraction) (exponent - fraction.length), rest)
  | none => readNamed t

end Nmea
