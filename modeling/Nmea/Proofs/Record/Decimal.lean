import Nmea.Proofs.Number.Fixed
import Nmea.Proofs.Number.Order
import Nmea.Proofs.Number.Shortest
import Nmea.Proofs.Record.Edit

/-!
# Writing numbers with fixed decimals

Every finite number can be written into a field with fixed decimals, and no other number can
(`Edit.writesFixed`). Directions are the numbers up to a full turn, and take five characters each.
-/

namespace Nmea

variable {r : Record} {index leading decimals units : Nat} {value : Double} {x : Rat}

namespace Edit

/-! ### Texts -/

/-- Neither a point nor a sign is one of the digits that are looked for. -/
theorem any_text_fixed : (Numeral.fixed none leading decimals units).text.any
    (fun c => '1' ≤ c && c ≤ '9') = true ↔ units ≠ 0 := by
  have digits := any_nonzero_iff (Numeral.fixed none leading decimals units).all_isDigit
  have all : (Numeral.fixed none leading decimals units).text.any (fun c => '1' ≤ c && c ≤ '9') =
      (Numeral.fixed none leading decimals units).digits.any (fun c => '1' ≤ c && c ≤ '9') := by
    rw [Numeral.text, Numeral.digits, Numeral.fixed]
    split <;> simp [signText]
  rw [all]
  refine digits.trans ?_
  rw [← Numeral.digits, Numeral.digitsValue_fixed]

theorem fixedText_eq (h : value.toRat? = some x) (leading decimals : Nat) :
    fixedText value.isNegative |x| leading decimals =
      (Numeral.fixed (fixedSign x (fixedUnits decimals |x|)) leading decimals
        (fixedUnits decimals |x|)).text := by
  have zero : fixedUnits decimals |0| = 0 := by
    rw [fixedUnits, abs_zero, zero_mul]
    exact roundRat_natCast .toEven 0
  have minus : (value.isNegative && (Numeral.fixed none leading decimals
      (fixedUnits decimals |x|)).text.any (fun c => '1' ≤ c && c ≤ '9')) = true ↔
      x < 0 ∧ fixedUnits decimals |x| ≠ 0 := by
    rw [Bool.and_eq_true, any_text_fixed, ← Binary.isNegative_and_ne_zero_iff h, and_assoc]
    refine and_congr_right fun _ => ⟨fun ne => ⟨?_, ne⟩, And.right⟩
    rintro rfl
    exact ne zero
  rw [fixedText, leftpad_fixed, fixedSign]
  by_cases negative : x < 0 ∧ fixedUnits decimals |x| ≠ 0
  · rw [if_pos (minus.mpr negative), if_pos negative]
    rfl
  · rw [if_neg (mt minus.mp negative), if_neg negative]

/-! ### What is written -/

theorem apply_setDouble (r : Record) (index leading decimals : Nat) (h : value.toRat? = some x) :
    (setDouble index value leading decimals).apply r =
      if index < r.count then (.ok (), { r with
        fields := r.fields.set index (Numeral.fixed (fixedSign x (fixedUnits decimals |x|)) leading
          decimals (fixedUnits decimals |x|)).text })
      else (.error (r.outOfRange index), r) := by
  rw [setDouble, Binary.magnitude?_eq_abs h]
  dsimp only
  rw [fixedText_eq h, apply_setField, if_pos (Binary.isFieldText_numeral _)]

theorem apply_setDouble_of_toRat?_eq_none (h : value.toRat? = none) :
    (setDouble index value leading decimals).apply r =
      (.error (.invalidFieldValue index value.plain), r) := by
  match value, h with
  | .nan, _ | .infinite _, _ => rfl

theorem within_turn_iff (value : Double) :
    (Binary.le (.ofNat 0) value && value.le fullTurn) = true ↔
      ∃ x, value.toRat? = some x ∧ 0 ≤ x ∧ x ≤ 360 := by
  have zero := Binary.toRat?_ofNat (n := 0) (by decide)
  have turn := Binary.toRat?_ofNat (n := 360) (by decide)
  exact_mod_cast Binary.le_and_le_iff zero turn

/-- Three digits, a point and one digit, without a sign, and up to a full turn. -/
structure IsDirection (n : Numeral) : Prop where
  exists_text : ∃ a b c d, n.text = [a, b, c, '.', d] ∧ [a, b, c, d].all Char.isDigit = true
  sign_eq : n.sign = none
  magnitude_le : n.magnitude ≤ 360

theorem isDirection_fixed (hx : 0 ≤ x) (le : x ≤ 360) :
    IsDirection (.fixed none 3 1 (fixedUnits 1 |x|)) := by
  have units : fixedUnits 1 |x| ≤ 3600 := by
    refine roundRat_le .toEven (by positivity) ?_
    rw [abs_of_nonneg hx]
    push_cast
    linarith
  have whole : (padded 3 (fixedUnits 1 |x| / 10 ^ 1)).length = 3 :=
    length_padded (by decide) (by omega)
  have tenth : (padded 1 (fixedUnits 1 |x| % 10 ^ 1)).length = 1 :=
    length_padded_mod (by decide) _
  have digits := (Numeral.fixed none 3 1 (fixedUnits 1 |x|)).all_isDigit
  rw [Nat.pow_one] at whole tenth
  obtain ⟨a, b, c, abc⟩ := List.length_eq_three.mp whole
  obtain ⟨d, hd⟩ := List.length_eq_one_iff.mp tenth
  refine ⟨⟨a, b, c, d, ?_, ?_⟩, rfl, ?_⟩
  · simp [Numeral.text, Numeral.fixed, signText, abc, hd]
  · simpa [Numeral.fixed, abc, hd] using digits
  · rw [Numeral.magnitude_fixed]
    have units : (fixedUnits 1 |x| : Rat) ≤ 3600 := by exact_mod_cast units
    norm_num
    linarith

/-- How a number is written with fixed decimals, and how as a direction. -/
structure WritesFixed (r : Record) (index : Nat) (value : Double) : Prop where
  apply_setDouble : ∀ x leading decimals, value.toRat? = some x →
    ∃ n : Numeral, n.IsFixed x leading decimals ∧ (setDouble index value leading decimals).apply r =
      if index < r.count then (.ok (), { r with fields := r.fields.set index n.text })
      else (.error (r.outOfRange index), r)
  apply_setDouble_of_not_finite : ∀ leading decimals, value.toRat? = none →
    (setDouble index value leading decimals).apply r =
      (.error (.invalidFieldValue index value.plain), r)
  apply_setDegrees : ∀ x, value.toRat? = some x → 0 ≤ x → x ≤ 360 →
    ∃ n : Numeral, n.IsFixed x 3 1 ∧ IsDirection n ∧ (setDegrees index value).apply r =
      if index < r.count then (.ok (), { r with fields := r.fields.set index n.text })
      else (.error (r.outOfRange index), r)
  apply_setDegrees_of_not_in_turn : (¬ ∃ x, value.toRat? = some x ∧ 0 ≤ x ∧ x ≤ 360) →
    (setDegrees index value).apply r = (.error (.valueOutOfRange value (.ofNat 0) fullTurn), r)

/-- Every number is written in this way. -/
theorem writesFixed (r : Record) (index : Nat) (value : Double) : WritesFixed r index value where
  apply_setDouble x leading decimals h :=
    ⟨_, Numeral.isFixed_fixed x leading decimals, apply_setDouble r index leading decimals h⟩
  apply_setDouble_of_not_finite _ _ h := apply_setDouble_of_toRat?_eq_none h
  apply_setDegrees x h low high := by
    have turn := (within_turn_iff value).mpr ⟨x, h, low, high⟩
    have fixed := Numeral.isFixed_fixed x 3 1
    have written := apply_setDouble r index 3 1 h
    rw [fixedSign_of_nonneg low] at fixed written
    refine ⟨_, fixed, isDirection_fixed low high, ?_⟩
    rw [setDegrees, if_pos turn, written]
  apply_setDegrees_of_not_in_turn h := by
    rw [setDegrees, if_neg (mt (within_turn_iff value).mp h)]
    rfl

example : fixedText true (1 / 4) 2 1 = "-00.2".toList ∧
    fixedText true (1 / 32) 2 1 = "00.0".toList := by decide +kernel

end Edit

end Nmea
