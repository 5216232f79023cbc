import Nmea.Number.Shortest

/-!
# Decimal notation

Binary numbers are written in the shortest digits that read back, or with a fixed number of
decimals from their exact value. A style says how the shortest digits are laid out.
-/

namespace Nmea

/-! ### Layout of the shortest digits -/

/-- How shortest digits are laid out. -/
structure DecimalStyle where
  /-- Whether a whole number is written with a point and a zero. -/
  wholePoint : Bool
  /-- The powers of ten of a leading digit that are written by position; all of them if absent. -/
  positional : Option (Int × Int)

/-- Plain numbers stand by position, and a whole number has no point. -/
def DecimalStyle.plain : DecimalStyle := ⟨false, none⟩

/-- Exact numbers always show a point or an exponent; from one ten-thousandth up to sixteen whole
digits they stand by position. -/
def DecimalStyle.exact : DecimalStyle := ⟨true, some (-4, 15)⟩

/-- Whether a number is written by position in a style. -/
def DecimalStyle.byPosition (style : DecimalStyle) (d : Decimal) : Bool :=
  match style.positional with
  | none             => true
  | some (low, high) => low ≤ d.point - 1 && d.point - 1 ≤ high

/-- Digits around a point at their place. -/
def positional (style : DecimalStyle) (d : Decimal) : Text :=
  if d.point ≤ 0 then '0' :: '.' :: List.replicate (-d.point).toNat '0' ++ d.digits
  else
    let whole := d.point.toNat
    if d.digits.length ≤ whole then
      d.digits ++ List.replicate (whole - d.digits.length) '0' ++
        (if style.wholePoint then ['.', '0'] else [])
    else d.digits.take whole ++ '.' :: d.digits.drop whole

/-- One digit before the point, and the power of ten behind the letter `e`. -/
def scientific (d : Decimal) : Text :=
  let mantissa := match d.digits with
    | first :: (second :: rest) => first :: '.' :: second :: rest
    | digits                    => digits
  mantissa ++ 'e' :: signedDecimal (d.point - 1)

/-- A zero in a style. -/
def zeroText (style : DecimalStyle) : Text := if style.wholePoint then ['0', '.', '0'] else ['0']

/-- A binary number in a style. -/
def Binary.text {f : Format} (style : DecimalStyle) : Binary f → Text
  | .nan                  => "NaN".toList
  | .infinite negative    => (if negative then ['-'] else []) ++ "inf".toList
  | .finite negative rank =>
    (if negative then ['-'] else []) ++
      if (rank : Nat) = 0 then zeroText style
      else
        let d := f.shortest rank
        if style.byPosition d then positional style d else scientific d

/-- A binary number in the plain style. -/
def Binary.plain {f : Format} (x : Binary f) : Text := x.text .plain

/-! ### Fixed decimals -/

/-- A magnitude with a fixed number of decimals, a half going to the even neighbour. -/
def fixed (places : Nat) (x : Rat) : Text :=
  let scale := Nat.pow 10 places
  let scaled := roundRat .toEven (x * scale)
  let whole := decimal (scaled / scale)
  if places = 0 then whole else whole ++ '.' :: padded places (scaled % scale)

end Nmea
