import Nmea.Number.Shortest
import Nmea.Proofs.Number.Rounding

/-!
# The nearest number

No whole number is nearer to a quotient than the one it is rounded to, and of two that are equally
near it is the even one. The same holds of the magnitudes of a format and their ranks. Therefore a
magnitude is rounded to a rank exactly if it lies between the middles towards the two neighbours of
the rank, where the middles themselves belong to the even rank (`Format.nearest_eq_iff_rounds`).
-/

namespace Nmea

variable {tie : Tie} {x u : Rat} {n m d : Nat}

/-! ### Whole numbers -/

theorem one_le_abs_natCast_sub (h : n ≠ m) : (1 : Rat) ≤ |(n : Rat) - m| := by
  have apart : (n : Int) - m ≠ 0 := sub_ne_zero.mpr (by exact_mod_cast h)
  exact_mod_cast Int.one_le_abs apart

theorem abs_roundRat_sub_le_abs (tie : Tie) (hx : 0 ≤ x) (n : Nat) :
    |(roundRat tie x : Rat) - x| ≤ |(n : Rat) - x| := by
  rcases eq_or_ne n (roundRat tie x) with rfl | ne
  · exact le_rfl
  · have near := abs_roundRat_sub_le tie hx
    have apart := one_le_abs_natCast_sub ne
    have detour := abs_sub_le (n : Rat) x (roundRat tie x)
    rw [abs_sub_comm x] at detour
    linarith

theorem roundRat_eq_of_abs_sub_lt (hx : 0 ≤ x) (h : |(n : Rat) - x| < 1 / 2) :
    roundRat tie x = n := by
  by_contra ne
  have near := abs_roundRat_sub_le_abs tie hx n
  have apart := one_le_abs_natCast_sub ne
  have detour := abs_sub_le (roundRat tie x : Rat) x n
  rw [abs_sub_comm x] at detour
  linarith

theorem roundDiv_mod_two (h : 0 < d) (half : 2 * n = 2 * (d * roundDiv .toEven n d) + d ∨
    2 * (d * roundDiv .toEven n d) = 2 * n + d) : roundDiv .toEven n d % 2 = 0 := by
  have division := Nat.div_add_mod n d
  have := Nat.mod_lt n h
  have next : d * (n / d + 1) = d * (n / d) + d := Nat.mul_succ d (n / d)
  revert half
  unfold roundDiv
  dsimp only
  split
  · omega
  · split
    · omega
    · split <;> omega

/-- A half goes to the even neighbour. -/
theorem roundRat_mod_two_of_half (hx : 0 ≤ x) (half : |(roundRat .toEven x : Rat) - x| = 1 / 2) :
    roundRat .toEven x % 2 = 0 := by
  have quotient := mul_den_eq_toNat hx
  refine roundDiv_mod_two x.den_pos ?_
  rcases eq_or_eq_neg_of_abs_eq half with above | below
  · right
    have scaled : 2 * (x.den * roundRat .toEven x : Rat) = 2 * x.num.toNat + x.den := by
      rw [← quotient, sub_eq_iff_eq_add.mp above]
      ring
    exact_mod_cast scaled
  · left
    have scaled : (2 * x.num.toNat : Rat) = 2 * (x.den * roundRat .toEven x) + x.den := by
      rw [← quotient, sub_eq_iff_eq_add.mp below]
      ring
    exact_mod_cast scaled

/-- Of two nearest whole numbers the even one is taken. -/
theorem roundRat_mod_two (hx : 0 ≤ x) (ne : n ≠ roundRat .toEven x)
    (h : |(n : Rat) - x| ≤ |(roundRat .toEven x : Rat) - x|) : roundRat .toEven x % 2 = 0 := by
  have near := abs_roundRat_sub_le .toEven hx
  have apart := one_le_abs_natCast_sub ne
  have detour := abs_sub_le (n : Rat) x (roundRat .toEven x)
  rw [abs_sub_comm x] at detour
  exact roundRat_mod_two_of_half hx (by linarith)

theorem abs_mul_sub (hu : 0 < u) (y x : Rat) : |y * u - x| = |y - x / u| * u := by
  rw [← abs_of_pos hu, ← abs_mul, abs_of_pos hu]
  congr 1
  field_simp

namespace Format

variable (f : Format) {rank : Nat}

/-! ### The order of the magnitudes -/

theorem significand_lt (rank : Nat) : f.significand rank < 2 * f.binade := by
  have := Nat.mod_lt rank f.binade_pos
  rw [significand]
  split <;> omega

theorem rank_eq (rank : Nat) : (rank / f.binade - 1) * f.binade + f.significand rank = rank := by
  rw [significand]
  split
  · next below => simp [Nat.div_eq_of_lt below]
  · next above =>
    have one : 1 ≤ rank / f.binade := (Nat.one_le_div_iff f.binade_pos).mpr (Nat.not_lt.mp above)
    have division := Nat.div_add_mod' rank f.binade
    rw [Nat.sub_mul, Nat.one_mul]
    have := Nat.mul_le_mul_right f.binade one
    omega

/-- The next magnitude is one step of the last bit away. -/
theorem magnitude_succ (rank : Nat) :
    f.magnitude (rank + 1) = f.magnitude rank + (2 : Rat) ^ f.exponent rank := by
  have full : 0 < rank / f.binade - 1 → f.binade ≤ f.significand rank + 1 := by
    intro h
    have above : ¬ rank < f.binade := fun below => by simp [Nat.div_eq_of_lt below] at h
    rw [significand, if_neg above]
    omega
  have next := f.magnitude_steps (Nat.succ_le_of_lt (f.significand_lt rank)) full
  rw [Nat.succ_eq_add_one, ← Nat.add_assoc, rank_eq] at next
  rw [next, magnitude, exponent]
  push_cast
  ring

theorem strictMono_magnitude : StrictMono f.magnitude := by
  refine strictMono_nat_of_lt_succ fun rank => ?_
  rw [magnitude_succ]
  exact lt_add_of_pos_right _ (by positivity)

/-! ### The nearest magnitude -/

/-- A magnitude is a number of steps of the last bit of what is nearest to `x`, or it is below the
binade of `x`. -/
theorem exists_steps_or_lt (hx : 0 < x) (rank : Nat) :
    (∃ n : Nat, f.magnitude rank = n * (2 : Rat) ^ f.lastExponent x) ∨
      (f.magnitude rank < f.binade * (2 : Rat) ^ f.lastExponent x ∧
        f.binade * (2 : Rat) ^ f.lastExponent x ≤ x) := by
  rcases le_or_gt (f.lastExponent x) (f.exponent rank) with coarse | fine
  · left
    obtain ⟨j, hj⟩ := Int.le.dest coarse
    refine ⟨f.significand rank * 2 ^ j, ?_⟩
    rw [magnitude, ← hj, zpow_add₀ (by norm_num), zpow_natCast]
    push_cast
    ring
  · right
    have least : f.minExponent ≤ f.exponent rank := by
      rw [exponent]
      omega
    have leading : f.fractionBits + f.lastExponent x = leadingExponent x := by
      rw [lastExponent] at fine ⊢
      omega
    constructor
    · have significand : (f.significand rank : Rat) < 2 * f.binade := by
        exact_mod_cast f.significand_lt rank
      calc f.magnitude rank < 2 * f.binade * (2 : Rat) ^ f.exponent rank :=
            mul_lt_mul_of_pos_right significand (by positivity)
        _ = f.binade * (2 : Rat) ^ (f.exponent rank + 1) := by
            rw [zpow_add_one₀ (by norm_num)]
            ring
        _ ≤ f.binade * (2 : Rat) ^ f.lastExponent x := by
            gcongr
            · norm_num
            · exact fine
    · rw [binade_eq_zpow, ← zpow_add₀ (by norm_num), leading]
      exact (le_leadingExponent_iff hx).mp le_rfl

theorem abs_nearest_sub_le_steps (hx : 0 < x) (n : Nat) :
    |f.magnitude (f.nearest x) - x| ≤ |n * (2 : Rat) ^ f.lastExponent x - x| := by
  have unit_pos : (0 : Rat) < 2 ^ f.lastExponent x := by positivity
  rw [f.magnitude_nearest hx, abs_mul_sub unit_pos, abs_mul_sub unit_pos]
  exact mul_le_mul_of_nonneg_right
    (abs_roundRat_sub_le_abs .toEven (div_pos hx unit_pos).le n) unit_pos.le

/-- No magnitude is nearer than the one of the nearest rank. -/
theorem abs_nearest_sub_le_abs (hx : 0 ≤ x) (rank : Nat) :
    |f.magnitude (f.nearest x) - x| ≤ |f.magnitude rank - x| := by
  rcases hx.eq_or_lt with rfl | hx
  · simp
  · rcases f.exists_steps_or_lt hx rank with ⟨n, hn⟩ | ⟨below, le⟩
    · rw [hn]
      exact f.abs_nearest_sub_le_steps hx n
    · refine (f.abs_nearest_sub_le_steps hx f.binade).trans ?_
      rw [abs_of_nonpos (by linarith), abs_of_nonpos (by linarith)]
      linarith

/-- Of two nearest magnitudes the one with the even rank is taken. -/
theorem nearest_mod_two (bits : 0 < f.fractionBits) (hx : 0 ≤ x) (ne : rank ≠ f.nearest x)
    (h : |f.magnitude rank - x| ≤ |f.magnitude (f.nearest x) - x|) : f.nearest x % 2 = 0 := by
  rcases hx.eq_or_lt with rfl | hx
  · rfl
  · have unit_pos : (0 : Rat) < 2 ^ f.lastExponent x := by positivity
    rcases f.exists_steps_or_lt hx rank with ⟨n, hn⟩ | ⟨below, le⟩
    · have other : n ≠ f.lastSteps x := by
        rintro rfl
        rw [← f.magnitude_nearest hx] at hn
        exact ne (f.strictMono_magnitude.injective hn)
      rw [hn, f.magnitude_nearest hx, abs_mul_sub unit_pos, abs_mul_sub unit_pos] at h
      have steps : f.lastSteps x % 2 = 0 :=
        roundRat_mod_two (div_pos hx unit_pos).le other (le_of_mul_le_mul_right h unit_pos)
      have binade : f.binade % 2 = 0 := Nat.mod_eq_zero_of_dvd (dvd_pow_self 2 bits.ne')
      rw [f.nearest_of_pos hx, Nat.add_mod, Nat.mul_mod, binade, steps, Nat.mul_zero]
    · -- the start of the binade is nearer than anything below it
      have near := h.trans (f.abs_nearest_sub_le_steps hx f.binade)
      rw [abs_of_nonpos (by linarith), abs_of_nonpos (by linarith)] at near
      linarith

/-! ### Middles -/

/-- The middle between a magnitude and the one before it. -/
def middle (rank : Nat) : Rat := (f.magnitude (rank - 1) + f.magnitude rank) / 2

/-- What reaches a rank is not below the middle in front of it, nor on it if the rank is odd. -/
theorem middle_of_le_nearest (bits : 0 < f.fractionBits) (hr : 0 < rank) (hx : 0 ≤ x)
    (reached : rank ≤ f.nearest x) :
    if rank % 2 = 0 then f.middle rank ≤ x else f.middle rank < x := by
  have before : f.magnitude (rank - 1) < f.magnitude rank := f.strictMono_magnitude (by omega)
  have far := f.strictMono_magnitude.monotone reached
  have near := f.abs_nearest_sub_le_abs hx (rank - 1)
  have above : f.magnitude (rank - 1) + f.magnitude rank ≤ 2 * x := by
    by_contra! lt
    rw [abs_of_pos (by linarith)] at near
    rcases abs_cases (f.magnitude (rank - 1) - x) with ⟨e, -⟩ | ⟨e, -⟩ <;> linarith
  rw [middle]
  split
  · linarith
  · next odd =>
    by_contra! le
    -- on the middle both neighbours are nearest, and this one is odd
    rw [abs_of_nonneg (by linarith), abs_of_neg (by linarith)] at near
    obtain rfl : rank = f.nearest x := by
      refine Nat.le_antisymm reached (f.strictMono_magnitude.le_iff_le.mp ?_)
      linarith
    refine odd (f.nearest_mod_two bits hx (by omega : f.nearest x - 1 ≠ _) ?_)
    rw [abs_of_neg (by linarith), abs_of_nonneg (by linarith)]
    linarith

theorem le_nearest_of_middle (bits : 0 < f.fractionBits) (hr : 0 < rank) (hx : 0 ≤ x)
    (above : if rank % 2 = 0 then f.middle rank ≤ x else f.middle rank < x) :
    rank ≤ f.nearest x := by
  have before : f.magnitude (rank - 1) < f.magnitude rank := f.strictMono_magnitude (by omega)
  rw [middle] at above
  have middle_le : f.magnitude (rank - 1) + f.magnitude rank ≤ 2 * x := by
    split at above <;> linarith
  by_contra! lt
  have far : f.magnitude (f.nearest x) ≤ f.magnitude (rank - 1) :=
    f.strictMono_magnitude.monotone (by omega)
  have near := f.abs_nearest_sub_le_abs hx rank
  rw [abs_of_neg (by linarith)] at near
  have below : x < f.magnitude rank := by
    by_contra! le
    rw [abs_of_nonpos (by linarith)] at near
    linarith
  rw [abs_of_pos (by linarith)] at near
  -- the one before the middle is nearest too, but it is not the even one
  obtain previous : f.nearest x = rank - 1 := by
    refine Nat.le_antisymm (by omega) (f.strictMono_magnitude.le_iff_le.mp ?_)
    linarith
  have even := f.nearest_mod_two bits hx (by omega : rank ≠ _) (by
    rw [abs_of_pos (by linarith), abs_of_neg (by linarith)]
    linarith)
  rw [if_neg (by omega)] at above
  linarith

theorem le_nearest_iff (bits : 0 < f.fractionBits) (hr : 0 < rank) (hx : 0 ≤ x) :
    rank ≤ f.nearest x ↔ if rank % 2 = 0 then f.middle rank ≤ x else f.middle rank < x :=
  ⟨f.middle_of_le_nearest bits hr hx, f.le_nearest_of_middle bits hr hx⟩

theorem nearest_mono (bits : 0 < f.fractionBits) {y : Rat} (hx : 0 ≤ x) (h : x ≤ y) :
    f.nearest x ≤ f.nearest y := by
  rcases Nat.eq_zero_or_pos (f.nearest x) with zero | pos
  · rw [zero]
    exact Nat.zero_le _
  · have reached := (f.le_nearest_iff bits pos hx).mp le_rfl
    rw [f.le_nearest_iff bits pos (hx.trans h)]
    split at reached
    · next even => rw [if_pos even]; exact reached.trans h
    · next odd => rw [if_neg odd]; exact reached.trans_le h

/-- What is rounded to a rank lies between the middles towards its neighbours. -/
theorem nearest_eq_iff_rounds (bits : 0 < f.fractionBits) (hr : 0 < rank) (hx : 0 ≤ x) :
    f.nearest x = rank ↔ f.rounds rank x = true := by
  have low := f.le_nearest_iff bits hr hx
  have high := not_congr (f.le_nearest_iff bits (by omega : 0 < rank + 1) hx)
  have cut : f.rounds rank x = true ↔
      (if rank % 2 = 0 then f.middle rank ≤ x ∧ x ≤ f.middle (rank + 1)
        else f.middle rank < x ∧ x < f.middle (rank + 1)) := by
    rw [rounds, middle, middle, Nat.add_sub_cancel]
    split <;> simp
  rw [cut]
  split
  · next even =>
    rw [if_pos even] at low
    rw [if_neg (by omega)] at high
    simp only [not_le, not_lt] at high
    rw [← low, ← high]
    omega
  · next odd =>
    rw [if_neg odd] at low
    rw [if_pos (by omega)] at high
    simp only [not_le] at high
    rw [← low, ← high]
    omega

end Format

end Nmea
