import Nmea.Number.Reading
import Nmea.Proofs.Number.Binary
import Nmea.Proofs.Text.Numeral

/-!
# Decimal digits and binary numbers

A run of digits with a power of ten stands for the binary number nearest to it. Powers of ten that
are not computed because of their size are no exception: the shortcut for large ones leads to
numbers beyond the format, and the shortcut for small ones to numbers next to zero
(`Binary.ofDecimal_eq_round`).
-/

namespace Nmea

variable {f : Format} {digits : Text}

namespace Binary

/-! ### Powers of ten and of two -/

theorem eight_zpow (z : Int) : (8 : Rat) ^ z = 2 ^ (3 * z) := by
  rw [zpow_mul]
  norm_num

theorem two_zpow_le_ten_zpow {z : Int} (h : 0 ≤ z) : (2 : Rat) ^ (3 * z) ≤ 10 ^ z := by
  rw [← eight_zpow]
  exact zpow_le_zpow_left₀ h (by norm_num) (by norm_num)

theorem ten_zpow_le_two_zpow {z : Int} (h : z ≤ 0) : (10 : Rat) ^ z ≤ 2 ^ (3 * z) := by
  have inverse := two_zpow_le_ten_zpow (Int.neg_nonneg_of_nonpos h)
  rw [Int.mul_neg, zpow_neg, zpow_neg] at inverse
  exact (inv_le_inv₀ (by positivity) (by positivity)).mp inverse

/-! ### Digits -/

/-- A number lies between the powers of ten at its first digit and in front of it. -/
theorem digits_mem {c : Char} {rest : Text} (hd : (c :: rest).all Char.isDigit = true)
    (nonzero : c ≠ '0') (exponent : Int) :
    (10 : Rat) ^ (exponent + rest.length) ≤ digitsValue (c :: rest) * 10 ^ exponent ∧
      digitsValue (c :: rest) * 10 ^ exponent < (10 : Rat) ^ (exponent + rest.length + 1) := by
  have first : c.isDigit = true := by
    rw [List.all_cons, Bool.and_eq_true] at hd
    exact hd.1
  have low : (10 : Rat) ^ (rest.length : Int) ≤ digitsValue (c :: rest) := by
    exact_mod_cast le_digitsValue first nonzero rest
  have high : (digitsValue (c :: rest) : Rat) < 10 ^ ((rest.length : Int) + 1) := by
    exact_mod_cast digitsValue_lt hd
  constructor
  · rw [add_comm, zpow_add₀ (by norm_num)]
    gcongr
  · rw [add_assoc, add_comm, zpow_add₀ (by norm_num)]
    gcongr

/-- Digits with a power of ten stand for the number nearest to them. -/
theorem ofDecimal_eq_round (negative : Bool) (hd : digits.all Char.isDigit = true)
    (exponent : Int) : (ofDecimal negative digits exponent : Binary f) =
      round negative (digitsValue digits * 10 ^ exponent) := by
  rw [ofDecimal, ← digitsValue_dropWhile digits]
  have significant : (digits.dropWhile (· = '0')).all Char.isDigit = true := by
    rw [List.all_eq_true] at hd ⊢
    exact fun c hc => hd c ((List.dropWhile_suffix _).subset hc)
  have first := List.head?_dropWhile_not (fun c => decide (c = '0')) digits
  have top : 0 < f.topExponent := Nat.pow_pos (by decide)
  have least : f.minExponent ≤ 1 := by
    rw [Format.minExponent]
    omega
  generalize digits.dropWhile (· = '0') = digits at *
  cases digits with
  | nil => simp
  | cons c rest =>
    have bounds := digits_mem significant (by simpa using first) exponent
    simp only [List.isEmpty_cons, Bool.false_eq_true, if_false, List.length_cons]
    split
    -- the power of ten is not computed if the first digit alone is beyond the format
    · next large =>
      refine (round_eq_infinite negative (le_trans ?_ bounds.1)).symm
      calc (2 : Rat) ^ f.topExponent ≤ 2 ^ (3 * (exponent + rest.length)) := by
            rw [← zpow_natCast]
            exact zpow_le_zpow_right₀ (by norm_num) (by push_cast at large; omega)
        _ ≤ 10 ^ (exponent + rest.length) := two_zpow_le_ten_zpow (by push_cast at large; omega)
    · split
      -- nor if all digits together are next to zero
      · next small =>
        refine (round_eq_round_zero negative (by positivity) (bounds.2.trans_le ?_)).symm
        calc (10 : Rat) ^ (exponent + rest.length + 1) ≤ 2 ^ (3 * (exponent + rest.length + 1)) :=
              ten_zpow_le_two_zpow (by push_cast at small; omega)
          _ ≤ 2 ^ (f.minExponent - 1) :=
              zpow_le_zpow_right₀ (by norm_num) (by push_cast at small; omega)
      · rfl

end Binary

end Nmea
