import Nmea.Proofs.Number.Binary
import Nmea.Proofs.Number.Nearest

/-!
# The order of binary numbers

Finite numbers are ordered as the rationals that they stand for, and what lies between two finite
numbers is finite (`Binary.le_and_le_iff`). A positive number is rounded below another one exactly
if it lies below the middle between that one and the number before it
(`Binary.round_lt_finite_iff`).
-/

namespace Nmea.Binary

variable {f : Format} {a b : Binary f} {x y : Rat}

/-! ### Finite numbers -/

theorem toRat?_finite (negative : Bool) (rank : Fin f.finiteCount) :
    (finite negative rank : Binary f).toRat? =
      some (if negative then -f.magnitude rank else f.magnitude rank) := rfl

theorem exists_finite_of_toRat? (h : a.toRat? = some x) :
    ∃ negative rank, a = finite negative rank ∧
      x = if negative then -f.magnitude rank else f.magnitude rank := by
  match a, h with
  | finite negative rank, h => exact ⟨negative, rank, rfl, (Option.some.inj h).symm⟩

theorem magnitude?_eq_abs (h : a.toRat? = some x) : a.magnitude? = some |x| := by
  obtain ⟨negative, rank, rfl, rfl⟩ := exists_finite_of_toRat? h
  have nonneg := f.magnitude_nonneg rank
  cases negative <;> simp [magnitude?, abs_of_nonneg nonneg]

/-- A number on the negative side that is not zero has the sign. -/
theorem isNegative_and_ne_zero_iff (h : a.toRat? = some x) :
    (a.isNegative = true ∧ x ≠ 0) ↔ x < 0 := by
  obtain ⟨negative, rank, rfl, rfl⟩ := exists_finite_of_toRat? h
  have nonneg := f.magnitude_nonneg rank
  cases negative with
  | false => simpa [isNegative] using nonneg
  | true => simpa [isNegative] using nonneg.lt_iff_ne'.symm

theorem toRat?_neg (h : a.toRat? = some x) : (-a).toRat? = some (-x) := by
  obtain ⟨negative, rank, rfl, rfl⟩ := exists_finite_of_toRat? h
  show (finite (!negative) rank : Binary f).toRat? = _
  cases negative <;> simp [toRat?_finite]

theorem toRat?_ofNat {n : Nat} (h : n < 2 ^ 53) : (ofNat n : Double).toRat? = some (n : Rat) := by
  obtain ⟨rank, e, exact_eq⟩ := exists_double_ofNat h
  rw [e, toRat?_finite, exact_eq]
  rfl

/-! ### The order -/

theorem le_finite_iff (s t : Bool) (i j : Fin f.finiteCount) :
    (finite s i : Binary f).le (finite t j) = true ↔
      (if s then -f.magnitude i else f.magnitude i) ≤
        (if t then -f.magnitude j else f.magnitude j) := by
  have order (m n : Nat) : f.magnitude m ≤ f.magnitude n ↔ m ≤ n :=
    f.strictMono_magnitude.le_iff_le
  have hi := f.magnitude_nonneg i
  have hj := f.magnitude_nonneg j
  have zero (n : Nat) : f.magnitude n ≤ 0 ↔ n ≤ 0 := by
    rw [← f.magnitude_zero, order]
  match s, t with
  | false, false => simp [le, place, order]
  | true, true => simp [le, place, order]
  | true, false =>
    simp only [le, place, if_true, Bool.false_eq_true, if_false, decide_eq_true_eq]
    exact iff_of_true (by omega) (by linarith)
  | false, true =>
    simp only [le, place, if_true, Bool.false_eq_true, if_false, decide_eq_true_eq]
    -- only zeros can stand in this order
    constructor
    · intro h
      have i_zero := (zero i).mpr (by omega)
      have j_zero := (zero j).mpr (by omega)
      linarith
    · intro h
      have := (zero i).mp (by linarith)
      have := (zero j).mp (by linarith)
      omega

theorem le_iff_of_toRat? (ha : a.toRat? = some x) (hb : b.toRat? = some y) :
    a.le b = true ↔ x ≤ y := by
  obtain ⟨s, i, rfl, rfl⟩ := exists_finite_of_toRat? ha
  obtain ⟨t, j, rfl, rfl⟩ := exists_finite_of_toRat? hb
  exact le_finite_iff s t i j

theorem lt_iff_of_toRat? (ha : a.toRat? = some x) (hb : b.toRat? = some y) :
    a.lt b = true ↔ x < y := by
  rw [← not_le, ← le_iff_of_toRat? hb ha]
  obtain ⟨s, i, rfl, rfl⟩ := exists_finite_of_toRat? ha
  obtain ⟨t, j, rfl, rfl⟩ := exists_finite_of_toRat? hb
  simp [lt, le, place]

/-- What lies between two finite numbers is finite. -/
theorem le_and_le_iff {c : Binary f} (ha : a.toRat? = some x) (hb : b.toRat? = some y) :
    (a.le c && c.le b) = true ↔ ∃ z, c.toRat? = some z ∧ x ≤ z ∧ z ≤ y := by
  rw [Bool.and_eq_true]
  match c with
  | finite negative rank =>
    have hc := toRat?_finite negative rank
    rw [le_iff_of_toRat? ha hc, le_iff_of_toRat? hc hb]
    simp [hc]
  | nan =>
    obtain ⟨s, i, rfl, rfl⟩ := exists_finite_of_toRat? ha
    simp [le, place, toRat?]
  | infinite negative =>
    obtain ⟨s, i, rfl, rfl⟩ := exists_finite_of_toRat? ha
    obtain ⟨t, j, rfl, rfl⟩ := exists_finite_of_toRat? hb
    have := i.isLt
    have := j.isLt
    simp only [toRat?, le, place, decide_eq_true_eq, reduceCtorEq, false_and, exists_false,
      iff_false, not_and, not_le]
    intro h
    split at h <;> split at h <;> split <;> omega

/-! ### Rounding below a number -/

/-- A positive number is rounded below another if it is less than the middle in front of that, or
on the middle if that is not the even one of the two. -/
theorem round_lt_finite_iff (bits : 0 < f.fractionBits) (hx : 0 ≤ x) {rank : Fin f.finiteCount}
    (hr : 0 < (rank : Nat)) : (round false x : Binary f).lt (finite false rank) = true ↔
      if (rank : Nat) % 2 = 0 then x < f.middle rank else x ≤ f.middle rank := by
  have below : (round false x : Binary f).lt (finite false rank) = true ↔ f.nearest x < rank := by
    rw [round]
    split
    · simp [lt, place]
    · simp [lt, place]
      omega
  rw [below, ← not_le, f.le_nearest_iff bits hr hx]
  split <;> simp

/-- Rounding does not lead beyond a whole number that is exact. -/
theorem exists_round_le {n : Nat} (hx : 0 ≤ x) (h : x ≤ n) (hn : n < 2 ^ 53) :
    ∃ rank : Fin Format.binary64.finiteCount,
      (round false x : Double) = .finite false rank ∧ Format.binary64.magnitude rank ≤ n := by
  have below : (n : Rat) < 2 ^ 53 := by exact_mod_cast hn
  refine ⟨_, round_eq_finite false (Format.binary64.nearest_lt_finiteCount hx (h.trans_lt below)
    (by decide) (by decide)), ?_⟩
  have le := Format.binary64.strictMono_magnitude.monotone
    (Format.binary64.nearest_mono (by decide) hx h)
  rwa [Format.binary64.magnitude_nearest_natCast (hn.trans_eq (by decide)) (by decide)] at le

theorem le_round (negative : Bool) (rank : Fin f.finiteCount) (h : (rank : Nat) = 0) :
    (finite negative rank : Binary f).le (round false x) = true := by
  rw [round]
  split <;> cases negative <;> simp [le, place, h]

end Nmea.Binary
