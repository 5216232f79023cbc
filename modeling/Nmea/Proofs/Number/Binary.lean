import Nmea.Proofs.Number.Rounding

/-!
# Binary floating-point numbers

What lies far enough below the end of a format is rounded to a finite number close to it, what lies
beyond the end to an infinity, and what lies next to zero to zero.
-/

namespace Nmea.Binary

variable {f : Format} {x : Rat}

/-! ### Finite numbers -/

theorem finite_mul_finite (s t : Bool) (i j : Fin f.finiteCount) :
    (.finite s i * .finite t j : Binary f) = round (s ^^ t) (f.magnitude i * f.magnitude j) := rfl

theorem finite_add_finite (i j : Fin f.finiteCount) :
    (.finite false i + .finite false j : Binary f) =
      round false (f.magnitude i + f.magnitude j) := by
  have nonneg := add_nonneg (f.magnitude_nonneg i) (f.magnitude_nonneg j)
  show (if f.magnitude i + f.magnitude j = 0 then round false 0
    else ofRat (f.magnitude i + f.magnitude j)) = _
  split
  · next zero => rw [zero]
  · rw [ofRat, if_neg (not_lt.mpr nonneg)]

theorem finite_div_finite (s t : Bool) (i : Fin f.finiteCount) {j : Fin f.finiteCount}
    (hj : f.magnitude j ≠ 0) :
    (.finite s i / .finite t j : Binary f) = round (s ^^ t) (f.magnitude i / f.magnitude j) := by
  have ne : (j : Nat) ≠ 0 := by
    intro zero
    rw [zero, f.magnitude_zero] at hj
    exact hj rfl
  exact if_neg ne

theorem toNatWithin_finite (limit : Nat) (i : Fin f.finiteCount) :
    (.finite false i : Binary f).toNatWithin limit =
      min limit (roundRat .away (f.magnitude i)) := rfl

/-! ### Rounding -/

theorem isNegative_round (negative : Bool) (x : Rat) :
    (round negative x : Binary f).isNegative = negative := by
  rw [round]
  split <;> rfl

theorem round_eq_finite (negative : Bool) (h : f.nearest x < f.finiteCount) :
    (round negative x : Binary f) = .finite negative ⟨f.nearest x, h⟩ :=
  dif_pos h

theorem round_eq_finite_of_nearest (negative : Bool) {rank : Fin f.finiteCount}
    (h : f.nearest x = rank) : (round negative x : Binary f) = .finite negative rank := by
  have lt : f.nearest x < f.finiteCount := h ▸ rank.isLt
  rw [round_eq_finite negative lt]
  exact congrArg (finite negative) (Fin.ext h)

/-- Below a power of two that is not the last of the format there is a finite number close by. -/
theorem exists_round_eq_finite {k : Nat} (negative : Bool) (hx : 0 ≤ x) (h : x < (2 : Rat) ^ k)
    (top : k < f.topExponent) (bits : 1 < f.exponentBits)
    (least : f.minExponent ≤ k - 1 - f.fractionBits) :
    ∃ rank : Fin f.finiteCount, (round negative x : Binary f) = .finite negative rank ∧
      |f.magnitude rank - x| ≤ (2 : Rat) ^ ((k : Int) - 2 - f.fractionBits) :=
  ⟨_, round_eq_finite negative (f.nearest_lt_finiteCount hx h top bits),
    f.abs_magnitude_nearest_sub_le_of_lt hx (by rwa [zpow_natCast]) least⟩

/-- The numbers of 64 bits below a power of two are as close as 53 significant bits allow. -/
theorem exists_double_eq_finite {k : Nat} (negative : Bool) (hx : 0 ≤ x) (h : x < (2 : Rat) ^ k)
    (top : k < 1024) : ∃ rank : Fin Format.binary64.finiteCount,
      (round negative x : Double) = .finite negative rank ∧
        |Format.binary64.magnitude rank - x| ≤ (2 : Rat) ^ ((k : Int) - 54) := by
  have least : Format.binary64.minExponent = -1074 := by decide
  have width : (Format.binary64.fractionBits : Int) = 52 := rfl
  have normal : Format.binary64.minExponent ≤ k - 1 - Format.binary64.fractionBits := by
    rw [least, width]
    omega
  have last : (k : Int) - 2 - 52 = k - 54 := by omega
  have near := exists_round_eq_finite (f := .binary64) negative hx h top (by decide) normal
  rwa [width, last] at near

/-- Whole numbers that fit into a significand are numbers of the format. -/
theorem exists_ofNat_eq_finite {n k : Nat} (h : n < 2 * f.binade) (hk : n < 2 ^ k)
    (top : k < f.topExponent) (bits : 1 < f.exponentBits) (least : f.minExponent ≤ 0) :
    ∃ rank : Fin f.finiteCount,
      (ofNat n : Binary f) = .finite false rank ∧ f.magnitude rank = n := by
  have below : (n : Rat) < 2 ^ k := by exact_mod_cast hk
  exact ⟨_, round_eq_finite false (f.nearest_lt_finiteCount n.cast_nonneg below top bits),
    f.magnitude_nearest_natCast h least⟩

/-- The whole numbers up to the bits of a significand are exact. -/
theorem exists_double_ofNat {n : Nat} (h : n < 2 ^ 53) :
    ∃ rank : Fin Format.binary64.finiteCount,
      (ofNat n : Double) = .finite false rank ∧ Format.binary64.magnitude rank = n :=
  exists_ofNat_eq_finite (h.trans_eq (by decide)) h (by decide) (by decide) (by decide)

/-- Rounding a multiple, and then to a whole number, hardly matters beside the second. -/
theorem abs_toNatWithin_mul_sub_le (limit : Nat) {i : Fin Format.binary64.finiteCount} {n k : Nat}
    (hn : n < 2 ^ 53) (h : Format.binary64.magnitude i * n < 2 ^ k) (top : k < 54)
    (hl : 2 ^ k < limit) :
    |(((.finite false i * .ofNat n : Double).toNatWithin limit : Nat) : Rat) -
      Format.binary64.magnitude i * n| ≤ 1 / 2 + (2 : Rat) ^ ((k : Int) - 54) := by
  have nonneg := Format.binary64.magnitude_nonneg i
  obtain ⟨factor, hf, factor_eq⟩ := exists_double_ofNat hn
  obtain ⟨product, hp, near⟩ :=
    exists_double_eq_finite false (by positivity) h (top.trans (by decide))
  have half := abs_roundRat_sub_le .away (Format.binary64.magnitude_nonneg product)
  have detour := abs_sub_le (roundRat .away (Format.binary64.magnitude product) : Rat)
    (Format.binary64.magnitude product) (Format.binary64.magnitude i * n)
  have cut : roundRat .away (Format.binary64.magnitude product) ≤ limit := by
    refine roundRat_le .away (Format.binary64.magnitude_nonneg product) ?_
    have last : (2 : Rat) ^ ((k : Int) - 54) ≤ 2 ^ (0 : Int) :=
      zpow_le_zpow_right₀ (by norm_num) (by omega)
    have room : (2 ^ k + 1 : Rat) ≤ limit := by exact_mod_cast hl
    rw [zpow_zero] at last
    linarith [(abs_le.mp near).2]
  rw [hf, finite_mul_finite, factor_eq, Bool.xor_false, hp, toNatWithin_finite, min_eq_right cut]
  linarith

theorem round_eq_infinite (negative : Bool) (h : (2 : Rat) ^ f.topExponent ≤ x) :
    (round negative x : Binary f) = .infinite negative := by
  rw [round]
  exact dif_neg (Nat.not_lt.mpr (f.finiteCount_le_nearest h))

theorem round_eq_round_zero (negative : Bool) (hx : 0 ≤ x)
    (h : x < (2 : Rat) ^ (f.minExponent - 1)) :
    (round negative x : Binary f) = round negative 0 := by
  have same := f.nearest_eq_zero hx h
  unfold round
  generalize f.nearest x = rank at same
  subst same
  rfl

end Nmea.Binary
