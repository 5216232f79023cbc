import Mathlib.Algebra.Order.Field.Power
import Mathlib.Data.Int.Log
import Mathlib.Data.Rat.Floor
import Mathlib.Tactic.FieldSimp
import Mathlib.Tactic.Linarith
import Mathlib.Tactic.Positivity
import Nmea.Number.Binary

/-!
# Rounding

A quotient is rounded by one half at most. A binary number is nearest to a magnitude if it is the
multiple of a power of two that the magnitude is rounded to, where the power is so chosen that the
multiples take all bits of a significand (`Format.magnitude_nearest`); rounding up to the next
power of two is no exception.
-/

namespace Nmea

/-! ### Whole numbers -/

variable {tie : Tie} {x : Rat} {k : Nat}

theorem roundDiv_bounds (tie : Tie) (n : Nat) {d : Nat} (h : 0 < d) :
    2 * n ≤ 2 * (d * roundDiv tie n d) + d ∧ 2 * (d * roundDiv tie n d) ≤ 2 * n + d := by
  have division := Nat.div_add_mod n d
  have := Nat.mod_lt n h
  have next : d * (n / d + 1) = d * (n / d) + d := Nat.mul_succ d (n / d)
  unfold roundDiv
  dsimp only
  split
  · omega
  · split
    · omega
    · cases tie with
      | toEven =>
        dsimp only
        split <;> omega
      | away =>
        dsimp only
        omega

theorem mul_den_eq_toNat (hx : 0 ≤ x) : x * x.den = x.num.toNat := by
  have num : (x.num.toNat : Int) = x.num := Int.toNat_of_nonneg (Rat.num_nonneg.mpr hx)
  rw [Rat.mul_den_eq_num, ← num]
  rfl

theorem abs_roundRat_sub_le (tie : Tie) (hx : 0 ≤ x) : |(roundRat tie x : Rat) - x| ≤ 1 / 2 := by
  obtain ⟨low, high⟩ := roundDiv_bounds tie x.num.toNat x.den_pos
  have quotient := mul_den_eq_toNat hx
  have den_pos : (0 : Rat) < x.den := by exact_mod_cast x.den_pos
  have low : (2 * x.num.toNat : Rat) ≤ 2 * (x.den * roundRat tie x) + x.den := by exact_mod_cast low
  have high : (2 * (x.den * roundRat tie x) : Rat) ≤ 2 * x.num.toNat + x.den := by
    exact_mod_cast high
  rw [← quotient] at low high
  rw [abs_le]
  constructor <;> nlinarith

theorem le_roundRat (tie : Tie) (h : (k : Rat) ≤ x) : k ≤ roundRat tie x := by
  have near := abs_le.mp (abs_roundRat_sub_le tie (k.cast_nonneg.trans h))
  have lt : (k : Rat) < roundRat tie x + 1 := by linarith [near.1]
  exact Nat.le_of_lt_succ (by exact_mod_cast lt)

theorem roundRat_le (tie : Tie) (hx : 0 ≤ x) (h : x ≤ k) : roundRat tie x ≤ k := by
  have near := abs_le.mp (abs_roundRat_sub_le tie hx)
  have lt : (roundRat tie x : Rat) < k + 1 := by linarith [near.2]
  exact Nat.le_of_lt_succ (by exact_mod_cast lt)

theorem roundRat_natCast (tie : Tie) (k : Nat) : roundRat tie k = k :=
  Nat.le_antisymm (roundRat_le tie k.cast_nonneg le_rfl) (le_roundRat tie le_rfl)

/-! ### Powers of two -/

theorem log_eq_of_mem {z : Int} (low : (2 : Rat) ^ z ≤ x) (high : x < (2 : Rat) ^ (z + 1)) :
    Int.log 2 x = z := by
  have hx : 0 < x := lt_of_lt_of_le (by positivity) low
  have le := (Int.zpow_le_iff_le_log (b := 2) (by decide) hx).mp (by exact_mod_cast low)
  have lt := (Int.lt_zpow_iff_log_lt (b := 2) (by decide) hx).mp (by exact_mod_cast high)
  omega

theorem leadingExponent_eq_log (hx : 0 < x) : leadingExponent x = Int.log 2 x := by
  have num_pos : 0 < x.num.toNat := by
    have := Rat.num_pos.mpr hx
    omega
  have quotient : x = x.num.toNat / x.den := by
    have num : (x.num.toNat : Int) = x.num := Int.toNat_of_nonneg (Rat.num_nonneg.mpr hx.le)
    conv_lhs => rw [← Rat.num_div_den x, ← num]
    rfl
  have num_low : (2 : Rat) ^ (x.num.toNat.log2 : Int) ≤ x.num.toNat := by
    exact_mod_cast Nat.log2_self_le num_pos.ne'
  have num_high : (x.num.toNat : Rat) < 2 ^ ((x.num.toNat.log2 : Int) + 1) := by
    exact_mod_cast Nat.lt_log2_self
  have den_low : (2 : Rat) ^ (x.den.log2 : Int) ≤ x.den := by
    exact_mod_cast Nat.log2_self_le x.den_ne_zero
  have den_high : (x.den : Rat) < 2 ^ ((x.den.log2 : Int) + 1) := by
    exact_mod_cast Nat.lt_log2_self
  have den_pos : (0 : Rat) < x.den := by exact_mod_cast x.den_pos
  rw [leadingExponent]
  generalize (x.num.toNat.log2 : Int) = a at *
  generalize (x.den.log2 : Int) = b at *
  split
  · next low =>
    refine (log_eq_of_mem low ?_).symm
    rw [quotient, div_lt_iff₀ den_pos]
    calc (x.num.toNat : Rat) < 2 ^ (a + 1) := num_high
      _ = 2 ^ (a - b + 1) * 2 ^ b := by rw [← zpow_add₀ (by norm_num)]; congr 1; omega
      _ ≤ 2 ^ (a - b + 1) * x.den := by gcongr
  · next high =>
    refine (log_eq_of_mem ?_ (by simpa using high)).symm
    rw [quotient, le_div_iff₀ den_pos]
    calc (2 : Rat) ^ (a - b - 1) * x.den ≤ 2 ^ (a - b - 1) * 2 ^ (b + 1) := by gcongr
      _ = 2 ^ a := by rw [← zpow_add₀ (by norm_num)]; congr 1; omega
      _ ≤ x.num.toNat := num_low

theorem leadingExponent_lt_iff {z : Int} (hx : 0 < x) :
    leadingExponent x < z ↔ x < (2 : Rat) ^ z := by
  rw [leadingExponent_eq_log hx]
  exact_mod_cast (Int.lt_zpow_iff_log_lt (b := 2) (by decide) hx).symm

theorem le_leadingExponent_iff {z : Int} (hx : 0 < x) :
    z ≤ leadingExponent x ↔ (2 : Rat) ^ z ≤ x := by
  rw [leadingExponent_eq_log hx]
  exact_mod_cast (Int.zpow_le_iff_le_log (b := 2) (by decide) hx).symm

namespace Format

variable (f : Format)

theorem binade_pos : 0 < f.binade := Nat.pow_pos (by decide)

theorem binade_eq_zpow : (f.binade : Rat) = 2 ^ (f.fractionBits : Int) := by
  rw [zpow_natCast]
  exact_mod_cast rfl

/-- The exponent of the last bit of a significand that is nearest to `x`. -/
def lastExponent (x : Rat) : Int := max f.minExponent (leadingExponent x - f.fractionBits)

/-- How many steps of the last bit there are to the number nearest to `x`. -/
def lastSteps (x : Rat) : Nat := roundRat .toEven (x / (2 : Rat) ^ f.lastExponent x)

theorem nearest_of_pos (hx : 0 < x) : f.nearest x =
    (f.lastExponent x - f.minExponent).toNat * f.binade + f.lastSteps x := by
  rw [nearest, if_neg (not_le.mpr hx)]
  rfl

theorem lastSteps_le (hx : 0 < x) : f.lastSteps x ≤ 2 * f.binade := by
  refine roundRat_le _ (by positivity) ?_
  rw [div_le_iff₀ (by positivity)]
  have high : x < (2 : Rat) ^ (leadingExponent x + 1) :=
    (leadingExponent_lt_iff hx).mp (Int.lt_succ _)
  have le : leadingExponent x + 1 ≤ 1 + f.fractionBits + f.lastExponent x := by
    have := le_max_right f.minExponent (leadingExponent x - f.fractionBits)
    rw [lastExponent]
    omega
  calc x ≤ (2 : Rat) ^ (leadingExponent x + 1) := high.le
    _ ≤ 2 ^ (1 + (f.fractionBits : Int) + f.lastExponent x) :=
      zpow_le_zpow_right₀ (by norm_num) le
    _ = ((2 * f.binade : Nat) : Rat) * 2 ^ f.lastExponent x := by
      rw [Nat.cast_mul, binade_eq_zpow, zpow_add₀ (by norm_num), zpow_add₀ (by norm_num)]
      norm_num

theorem binade_le_lastSteps (hx : 0 < x)
    (h : f.minExponent ≤ leadingExponent x - f.fractionBits) : f.binade ≤ f.lastSteps x := by
  refine le_roundRat _ ?_
  rw [le_div_iff₀ (by positivity), binade_eq_zpow, ← zpow_add₀ (by norm_num)]
  have low : (2 : Rat) ^ leadingExponent x ≤ x := (le_leadingExponent_iff hx).mp le_rfl
  have same : f.fractionBits + f.lastExponent x = leadingExponent x := by
    rw [lastExponent]
    omega
  rwa [same]

theorem magnitude_of_lt {q : Nat} (h : q < f.binade) :
    f.magnitude q = q * (2 : Rat) ^ f.minExponent := by
  simp [magnitude, significand, exponent, h, Nat.div_eq_of_lt h]

theorem magnitude_in_binade (k : Nat) {p : Nat} (h : p < f.binade) :
    f.magnitude ((k + 1) * f.binade + p) =
      (f.binade + p : Nat) * (2 : Rat) ^ (f.minExponent + k) := by
  have full : ¬ (k + 1) * f.binade + p < f.binade := by
    rw [Nat.add_mul]
    omega
  have place : ((k + 1) * f.binade + p) % f.binade = p := by
    rw [Nat.mul_add_mod_self_right, Nat.mod_eq_of_lt h]
  have number : ((k + 1) * f.binade + p) / f.binade - 1 = k := by
    rw [Nat.add_comm, Nat.add_mul_div_right _ _ f.binade_pos, Nat.div_eq_of_lt h]
    omega
  rw [magnitude, significand, exponent, if_neg full, place, number]

/-- A rank is a number of steps of the last bit above the start of its binade. -/
theorem magnitude_steps {k q : Nat} (hq : q ≤ 2 * f.binade) (h : 0 < k → f.binade ≤ q) :
    f.magnitude (k * f.binade + q) = q * (2 : Rat) ^ (f.minExponent + k) := by
  rcases Nat.lt_or_ge q f.binade with below | above
  · have zero : k = 0 := by
      by_contra hk
      exact absurd (h (Nat.pos_of_ne_zero hk)) (Nat.not_le.mpr below)
    simpa [zero] using f.magnitude_of_lt below
  · obtain ⟨p, rfl⟩ := Nat.exists_eq_add_of_le above
    rcases Nat.lt_or_ge p f.binade with inside | carry
    · rw [← f.magnitude_in_binade k inside, Nat.add_mul, Nat.one_mul, Nat.add_assoc]
    · -- rounding has carried into the next binade, where a step is twice as long
      obtain rfl : p = f.binade := by omega
      have next := f.magnitude_in_binade (k + 1) f.binade_pos
      have rank : k * f.binade + (f.binade + f.binade) = (k + 1 + 1) * f.binade + 0 := by ring
      have twice : f.minExponent + ((k + 1 : Nat) : Int) = 1 + (f.minExponent + k) := by
        push_cast
        ring
      rw [rank, next, twice, zpow_add₀ (by norm_num)]
      push_cast
      ring

theorem magnitude_nearest (hx : 0 < x) :
    f.magnitude (f.nearest x) = f.lastSteps x * (2 : Rat) ^ f.lastExponent x := by
  have least : f.minExponent ≤ f.lastExponent x := le_max_left _ _
  have exponent : f.minExponent + ((f.lastExponent x - f.minExponent).toNat : Int) =
      f.lastExponent x := by
    omega
  rw [f.nearest_of_pos hx, f.magnitude_steps (f.lastSteps_le hx), exponent]
  intro above
  refine f.binade_le_lastSteps hx ?_
  rw [lastExponent] at above
  omega

/-- The nearest number is no further away than half a step. -/
theorem abs_magnitude_nearest_sub_le (hx : 0 < x) :
    |f.magnitude (f.nearest x) - x| ≤ (2 : Rat) ^ f.lastExponent x / 2 := by
  have unit_pos : (0 : Rat) < 2 ^ f.lastExponent x := by positivity
  have near := abs_roundRat_sub_le .toEven (div_pos hx unit_pos).le
  rw [f.magnitude_nearest hx]
  calc |(f.lastSteps x : Rat) * 2 ^ f.lastExponent x - x|
      = |(f.lastSteps x : Rat) - x / 2 ^ f.lastExponent x| * 2 ^ f.lastExponent x := by
        rw [← abs_of_pos unit_pos, ← abs_mul, abs_of_pos unit_pos]
        congr 1
        field_simp
    _ ≤ 1 / 2 * 2 ^ f.lastExponent x := mul_le_mul_of_nonneg_right near unit_pos.le
    _ = 2 ^ f.lastExponent x / 2 := by ring

theorem magnitude_nonneg (rank : Nat) : 0 ≤ f.magnitude rank := by
  rw [magnitude]
  positivity

/-! ### Ranges -/

@[simp] theorem nearest_zero : f.nearest 0 = 0 := rfl

@[simp] theorem magnitude_zero : f.magnitude 0 = 0 := by
  simpa using f.magnitude_of_lt f.binade_pos

theorem lastExponent_le {k : Int} (hx : 0 < x) (h : x < (2 : Rat) ^ k)
    (hk : f.minExponent ≤ k - 1 - f.fractionBits) : f.lastExponent x ≤ k - 1 - f.fractionBits := by
  have log := (leadingExponent_lt_iff hx).mpr h
  rw [lastExponent]
  omega

theorem abs_magnitude_nearest_sub_le_of_lt {k : Int} (hx : 0 ≤ x) (h : x < (2 : Rat) ^ k)
    (hk : f.minExponent ≤ k - 1 - f.fractionBits) :
    |f.magnitude (f.nearest x) - x| ≤ (2 : Rat) ^ (k - 2 - f.fractionBits) := by
  rcases hx.eq_or_lt with rfl | pos
  · simp
    positivity
  · calc |f.magnitude (f.nearest x) - x| ≤ (2 : Rat) ^ f.lastExponent x / 2 :=
        f.abs_magnitude_nearest_sub_le pos
      _ = (2 : Rat) ^ (f.lastExponent x - 1) := by rw [zpow_sub_one₀ (by norm_num)]; rfl
      _ ≤ (2 : Rat) ^ (k - 2 - f.fractionBits) := by
        have := f.lastExponent_le pos h hk
        exact zpow_le_zpow_right₀ (by norm_num) (by omega)

theorem magnitude_nearest_natCast {n : Nat} (h : n < 2 * f.binade) (hf : f.minExponent ≤ 0) :
    f.magnitude (f.nearest n) = n := by
  rcases Nat.eq_zero_or_pos n with rfl | pos
  · simp
  · have hx : (0 : Rat) < n := by exact_mod_cast pos
    have below : (n : Rat) < 2 ^ (1 + (f.fractionBits : Int)) := by
      rw [zpow_add₀ (by norm_num), ← binade_eq_zpow]
      exact_mod_cast h
    have whole : f.lastExponent n ≤ 0 := by
      have := f.lastExponent_le hx below (by omega)
      omega
    obtain ⟨j, hj⟩ : ∃ j : Nat, f.lastExponent n = -j := ⟨(-f.lastExponent n).toNat, by omega⟩
    have steps : (n : Rat) / 2 ^ f.lastExponent n = (n * 2 ^ j : Nat) := by
      rw [hj, zpow_neg, zpow_natCast]
      simp
    rw [f.magnitude_nearest hx, lastSteps, steps, roundRat_natCast, ← steps]
    field_simp

theorem two_mul_topExponent (hf : 0 < f.exponentBits) : 2 * f.topExponent = 2 ^ f.exponentBits := by
  show 2 * 2 ^ (f.exponentBits - 1) = _
  rw [← Nat.pow_succ']
  congr
  omega

/-- What is below the first power of two beyond the finite magnitudes is rounded to one of these, if
another power of two lies between. -/
theorem nearest_lt_finiteCount {k : Nat} (hx : 0 ≤ x) (h : x < (2 : Rat) ^ k)
    (hk : k < f.topExponent) (hf : 1 < f.exponentBits) : f.nearest x < f.finiteCount := by
  have pos := f.binade_pos
  have top := f.two_mul_topExponent (by omega)
  have two_le : 2 ≤ f.topExponent := by
    have : 2 ^ 2 ≤ 2 ^ f.exponentBits := Nat.pow_le_pow_right (by decide) hf
    omega
  rcases hx.eq_or_lt with rfl | hx
  · show 0 < (2 ^ f.exponentBits - 1) * f.binade
    exact Nat.mul_pos (by omega) pos
  · have log : leadingExponent x < k := (leadingExponent_lt_iff hx).mpr (by rwa [zpow_natCast])
    -- the steps fill two binades at most, and one more is left below the last
    have steps := f.lastSteps_le hx
    have binades : (f.lastExponent x - f.minExponent).toNat + 3 ≤ 2 * f.topExponent - 1 := by
      rw [lastExponent, minExponent]
      omega
    calc f.nearest x ≤ ((f.lastExponent x - f.minExponent).toNat + 2) * f.binade := by
          rw [f.nearest_of_pos hx, Nat.add_mul]
          omega
      _ < ((f.lastExponent x - f.minExponent).toNat + 3) * f.binade :=
          Nat.mul_lt_mul_of_pos_right (Nat.lt_succ_self _) pos
      _ ≤ (2 * f.topExponent - 1) * f.binade := Nat.mul_le_mul_right _ binades
      _ = f.finiteCount := by rw [top]; rfl

theorem finiteCount_le_nearest (h : (2 : Rat) ^ f.topExponent ≤ x) :
    f.finiteCount ≤ f.nearest x := by
  have hx : 0 < x := lt_of_lt_of_le (by positivity) h
  have log : f.topExponent ≤ leadingExponent x :=
    (le_leadingExponent_iff hx).mpr (by rwa [zpow_natCast])
  have top : 0 < f.topExponent := Nat.pow_pos (by decide)
  have count : 2 ^ f.exponentBits ≤ 2 * f.topExponent := by
    show 2 ^ f.exponentBits ≤ 2 * 2 ^ (f.exponentBits - 1)
    rw [← Nat.pow_succ']
    exact Nat.pow_le_pow_right (by decide) (by omega)
  have steps := f.binade_le_lastSteps hx (by rw [minExponent]; omega)
  have binades : 2 * f.topExponent - 1 ≤ (f.lastExponent x - f.minExponent).toNat + 1 := by
    rw [lastExponent, minExponent]
    omega
  calc f.finiteCount ≤ (2 * f.topExponent - 1) * f.binade :=
        Nat.mul_le_mul_right _ (Nat.sub_le_sub_right count 1)
    _ ≤ ((f.lastExponent x - f.minExponent).toNat + 1) * f.binade :=
        Nat.mul_le_mul_right _ binades
    _ ≤ f.nearest x := by
        rw [f.nearest_of_pos hx, Nat.add_mul]
        omega

/-- What is below the half of the smallest magnitude above zero is rounded to zero. -/
theorem nearest_eq_zero (hx : 0 ≤ x) (h : x < (2 : Rat) ^ (f.minExponent - 1)) :
    f.nearest x = 0 := by
  rcases hx.eq_or_lt with rfl | hx
  · rfl
  · have log : leadingExponent x < f.minExponent - 1 := (leadingExponent_lt_iff hx).mpr h
    have last : f.lastExponent x = f.minExponent := by
      rw [lastExponent]
      omega
    have unit_pos : (0 : Rat) < 2 ^ f.minExponent := by positivity
    have half : x / 2 ^ f.minExponent < 1 / 2 := by
      rw [div_lt_iff₀ unit_pos]
      rwa [zpow_sub_one₀ (by norm_num), mul_comm, ← one_div] at h
    have steps : f.lastSteps x = 0 := by
      have near := abs_le.mp (abs_roundRat_sub_le .toEven (div_pos hx unit_pos).le)
      have lt : (f.lastSteps x : Rat) < 1 := by
        rw [lastSteps, last]
        linarith [near.2]
      exact Nat.lt_one_iff.mp (by exact_mod_cast lt)
    rw [f.nearest_of_pos hx, steps, last]
    simp

end Format

end Nmea
