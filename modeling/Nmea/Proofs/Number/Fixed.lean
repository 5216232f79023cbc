import Nmea.Number.Notation
import Nmea.Proofs.Number.Nearest
import Nmea.Proofs.Number.Reading

/-!
# Fixed decimals

A number with fixed decimals is a whole number of units in the last place. The units are cut into
digits in front of the point and behind it, and the point moves no digit from one side to the other
(`Numeral.digitsValue_fixed`); therefore the number that is written is off by half a unit at most
(`Numeral.isFixed_fixed`).
-/

namespace Nmea

variable {x : Rat} {leading decimals : Nat}

/-! ### Whole numbers of units in the last place -/

namespace Numeral

/-- A number of units in the last place, with at least `leading` digits in front of the point. -/
def fixed (sign : Option Bool) (leading decimals units : Nat) : Numeral where
  sign := sign
  whole := padded leading (units / 10 ^ decimals)
  fraction := if decimals = 0 then none else some (padded decimals (units % 10 ^ decimals))
  power := none
  all_isDigit := by split <;> simp [all_isDigit_padded]
  digits_ne_nil := by simp [padded, List.leftpad, decimal_ne_nil]

variable (sign : Option Bool) (leading decimals units : Nat)

theorem length_fraction_fixed : (fixed sign leading decimals units).fraction.map List.length =
    if decimals = 0 then none else some decimals := by
  rw [fixed]
  dsimp only
  split
  · rfl
  · next some_decimal =>
    rw [Option.map_some, length_padded_mod (Nat.pos_of_ne_zero some_decimal)]

theorem digitsValue_fixed : digitsValue (fixed sign leading decimals units).digits = units := by
  rw [digits, fixed]
  dsimp only
  split
  · next none => simp [none, digitsValue_padded]
  · next some_decimal =>
    rw [Option.getD, digitsValue_append, digitsValue_padded, digitsValue_padded,
      length_padded_mod (Nat.pos_of_ne_zero some_decimal), Nat.div_add_mod]

theorem exponent_fixed : (fixed sign leading decimals units).exponent = -(decimals : Int) := by
  rw [exponent, fixed]
  dsimp only
  split
  · next none => simp [none]
  · next some_decimal =>
    rw [Option.getD, length_padded_mod (Nat.pos_of_ne_zero some_decimal)]
    simp

theorem magnitude_fixed : (fixed sign leading decimals units).magnitude =
    units * (10 : Rat) ^ (-(decimals : Int)) := by
  rw [magnitude, digitsValue_fixed, exponent_fixed]

theorem value_fixed : (fixed sign leading decimals units).value =
    (if sign = some true then -1 else 1) * (units * (10 : Rat) ^ (-(decimals : Int))) := by
  rw [value, magnitude_fixed]
  by_cases minus : sign = some true
  · simp [isNegative, fixed, minus]
  · simp [isNegative, fixed, minus]

end Numeral

/-! ### Magnitudes -/

/-- The units in the last place that a magnitude is rounded to. -/
def fixedUnits (decimals : Nat) (x : Rat) : Nat := roundRat .toEven (x * (10 ^ decimals : Nat))

/-- The digits of a magnitude in units of the last place. -/
theorem leftpad_fixed (leading decimals : Nat) (x : Rat) :
    List.leftpad (if decimals = 0 then leading else leading + decimals + 1) '0' (fixed decimals x) =
      (Numeral.fixed none leading decimals (fixedUnits decimals x)).text := by
  have units : roundRat .toEven (x * (Nat.pow 10 decimals : Nat)) = fixedUnits decimals x := rfl
  rw [fixed, units]
  generalize fixedUnits decimals x = units
  split
  · next none => simp [Numeral.text, Numeral.fixed, none, signText, padded]
  · next some_decimal =>
    have length : ('.' :: padded decimals (units % Nat.pow 10 decimals)).length = decimals + 1 := by
      rw [List.length_cons]
      exact congrArg (· + 1) (length_padded_mod (Nat.pos_of_ne_zero some_decimal) units)
    rw [Nat.add_assoc, ← length, leftpad_append]
    simp [Numeral.text, Numeral.fixed, some_decimal, signText, padded]

/-! ### Numbers -/

/-- A number as it ought to be written with fixed decimals: with at least one digit in front of the
point, zeros in front of it only up to `leading` digits, no point without decimals, rounded with a
half going to the even neighbour, and with a minus if what is written is below zero. -/
structure Numeral.IsFixed (n : Numeral) (x : Rat) (leading decimals : Nat) : Prop where
  length_fraction : n.fraction.map List.length = if decimals = 0 then none else some decimals
  power_eq : n.power = none
  le_length_whole : max leading 1 ≤ n.whole.length
  head?_whole_ne : max leading 1 < n.whole.length → n.whole.head? ≠ some '0'
  abs_value_sub_le : |n.value - x| ≤ (10 : Rat) ^ (-(decimals : Int)) / 2
  even_of_half : |n.value - x| = (10 : Rat) ^ (-(decimals : Int)) / 2 →
    digitsValue n.digits % 2 = 0
  sign_eq : n.sign = if x < 0 ∧ n.magnitude ≠ 0 then some true else none

/-- The sign of a number of units. -/
def fixedSign (x : Rat) (units : Nat) : Option Bool :=
  if x < 0 ∧ units ≠ 0 then some true else none

theorem fixedSign_of_nonneg (hx : 0 ≤ x) (units : Nat) : fixedSign x units = none :=
  if_neg fun negative => absurd negative.1 (not_lt.mpr hx)

theorem Numeral.abs_value_fixed_sub (x : Rat) (leading decimals units : Nat) :
    |(fixed (fixedSign x units) leading decimals units).value - x| =
      |(units : Rat) - |x| * (10 ^ decimals : Nat)| * (10 : Rat) ^ (-(decimals : Int)) := by
  have unit_pos : (0 : Rat) < 10 ^ (-(decimals : Int)) := by positivity
  have scaled : |x| * (10 ^ decimals : Nat) = |x| / (10 : Rat) ^ (-(decimals : Int)) := by
    rw [zpow_neg, zpow_natCast, div_inv_eq_mul]
    push_cast
    rfl
  rw [scaled, ← abs_mul_sub unit_pos, value_fixed, fixedSign]
  rcases lt_or_ge x 0 with negative | nonneg
  · rw [abs_of_neg negative, sub_neg_eq_add, ← abs_neg, neg_sub]
    by_cases zero : units = 0
    · simp [zero]
    · simp [negative, zero]
      ring_nf
  · simp [abs_of_nonneg nonneg, not_lt.mpr nonneg]

theorem Numeral.isFixed_fixed (x : Rat) (leading decimals : Nat) :
    (fixed (fixedSign x (fixedUnits decimals |x|)) leading decimals
      (fixedUnits decimals |x|)).IsFixed x leading decimals := by
  have unit_pos : (0 : Rat) < 10 ^ (-(decimals : Int)) := by positivity
  have nonneg : 0 ≤ |x| * (10 ^ decimals : Nat) := by positivity
  refine ⟨length_fraction_fixed _ _ _ _, rfl, max_one_le_length_padded _ _, head?_padded_ne, ?_, ?_,
    ?_⟩
  · rw [abs_value_fixed_sub, div_eq_inv_mul, ← one_div]
    exact mul_le_mul_of_nonneg_right (abs_roundRat_sub_le .toEven nonneg) unit_pos.le
  · rw [abs_value_fixed_sub, div_eq_inv_mul, ← one_div, digitsValue_fixed]
    intro half
    exact roundRat_mod_two_of_half nonneg (mul_right_cancel₀ unit_pos.ne' half)
  · rw [magnitude_fixed]
    simp [fixed, fixedSign]

end Nmea
