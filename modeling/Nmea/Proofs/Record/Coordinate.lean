import Nmea.Proofs.Field.Degrees
import Nmea.Proofs.Number.Fixed
import Nmea.Proofs.Record.Reachable

/-!
# Writing and reading coordinates

A latitude or a longitude is rounded to thousandths of a minute and written as degrees and minutes
in one field, with the letter of its hemisphere in another. It is read again from there as the
angle that was written, also after the record went through its line
(`Edit.exists_isCoordinateWritten`).
-/

namespace Nmea

variable {axis : Record.Axis} {r s : Record} {index hemisphere limit n : Nat}
  {value degrees m : Double} {x : Rat} {text : Text}

/-! ### Thousandths of a minute -/

/-- The minutes are rounded once more before their digits are taken, which changes none of these. -/
theorem exists_fixedUnits_minutes (h : n < thousandthsPerDegree) :
    ∃ m, (.ofNat n / .ofNat 1000 : Double).magnitude? = some m ∧ fixedUnits 3 m = n := by
  have h : n < 60000 := h
  have below : (n : Rat) < 60000 := by exact_mod_cast h
  obtain ⟨i, hi, i_eq⟩ := Binary.exists_double_ofNat (n := n) (by omega)
  obtain ⟨k, hk, k_eq⟩ := Binary.exists_double_ofNat (n := 1000) (by decide)
  obtain ⟨m, hm, near⟩ := Binary.exists_double_eq_finite (x := n / 1000) (k := 6) false
    (by positivity) (by norm_num; linarith) (by decide)
  refine ⟨Format.binary64.magnitude m, ?_, ?_⟩
  · rw [hi, hk, Binary.finite_div_finite _ _ _ (by rw [k_eq]; norm_num), i_eq, k_eq, Bool.xor_false,
      Nat.cast_ofNat, hm]
    rfl
  · refine roundRat_eq_of_abs_sub_lt
      (mul_nonneg (Format.binary64.magnitude_nonneg m) (Nat.cast_nonneg _)) ?_
    have near := abs_le.mp near
    rw [abs_lt]
    norm_num at near ⊢
    constructor <;> linarith

theorem minutes_lt_sixty (n : Nat) : n % thousandthsPerDegree / 1000 < 60 :=
  Nat.div_lt_of_lt_mul (Nat.mod_lt n (by decide))

/-- A number of thousandths of a minute as an angle, the degrees padded to `width` digits. -/
def WrittenAngle.ofThousandths (width n : Nat) : WrittenAngle where
  degrees := padded width (n / thousandthsPerDegree)
  minutes := padded 2 (n % thousandthsPerDegree / 1000)
  decimals := some (padded 3 (n % thousandthsPerDegree % 1000))
  all_isDigit_degrees := all_isDigit_padded _ _
  all_isDigit_minutes := by simp [all_isDigit_padded]
  length_minutes := length_padded (by decide) ((minutes_lt_sixty n).trans (by decide))

theorem WrittenAngle.numeral_ofThousandths (width n : Nat) :
    (ofThousandths width n).numeral none = .fixed none 2 3 (n % thousandthsPerDegree) := rfl

theorem WrittenAngle.length_decimals_ofThousandths (width n : Nat) :
    (ofThousandths width n).decimals.map List.length = some 3 :=
  congrArg some (length_padded_mod (by decide) (n % thousandthsPerDegree))

theorem WrittenAngle.digitsValue_ofThousandths (width n : Nat) :
    thousandthsPerDegree * digitsValue (ofThousandths width n).degrees +
      digitsValue ((ofThousandths width n).minutes ++ (ofThousandths width n).decimals.getD []) =
        n := by
  have degrees : digitsValue (ofThousandths width n).degrees = n / thousandthsPerDegree :=
    digitsValue_padded _ _
  have rest : digitsValue ((ofThousandths width n).minutes ++
      (ofThousandths width n).decimals.getD []) = n % thousandthsPerDegree :=
    Numeral.digitsValue_fixed none 2 3 _
  rw [degrees, rest, Nat.div_add_mod]

theorem formatDegrees_eq (width : Nat) (degrees : Double) :
    formatDegrees width degrees =
      (WrittenAngle.ofThousandths width (toThousandths degrees)).text := by
  obtain ⟨m, minutes, units⟩ := exists_fixedUnits_minutes
    (Nat.mod_lt (toThousandths degrees) (by decide : 0 < thousandthsPerDegree))
  have written := leftpad_fixed 2 3 m
  have text := (WrittenAngle.ofThousandths width (toThousandths degrees)).text_append none
  rw [Option.elim, List.append_nil, WrittenAngle.numeral_ofThousandths, ← units, ← written] at text
  rw [formatDegrees, minutes, text]
  rfl

theorem abs_toThousandths_sub_le (h : degrees.toRat? = some x) (le : |x| ≤ 180) :
    |60000 * |x| - toThousandths degrees| ≤ 1 / 2 + 2 ^ (-30 : Int) := by
  obtain ⟨negative, i, rfl, hx⟩ := Binary.exists_finite_of_toRat? h
  have magnitude : |x| = Format.binary64.magnitude i := by
    have := Binary.magnitude?_eq_abs h
    exact (Option.some.inj this).symm
  rw [magnitude] at le ⊢
  have below : Format.binary64.magnitude i * thousandthsPerDegree < 2 ^ 24 := by
    norm_num [thousandthsPerDegree]
    linarith
  have near := Binary.abs_toNatWithin_mul_sub_le mostThousandths (i := i)
    (n := thousandthsPerDegree) (k := 24) (by decide) below (by decide) (by decide)
  rw [abs_sub_comm, mul_comm 60000]
  exact near

theorem toThousandths_le (h : degrees.toRat? = some x) (hl : limit ≤ 180) (le : |x| ≤ limit) :
    toThousandths degrees ≤ thousandthsPerDegree * limit := by
  have most : (limit : Rat) ≤ 180 := by exact_mod_cast hl
  have near := (abs_le.mp (abs_toThousandths_sub_le h (le.trans most))).1
  norm_num at near
  have lt : (toThousandths degrees : Rat) < 60000 * limit + 1 := by linarith
  have lt : toThousandths degrees < 60000 * limit + 1 := by exact_mod_cast lt
  exact Nat.le_of_lt_succ lt

/-- The number of an angle does not reach beyond the degrees that its minutes may carry into. -/
theorem WrittenAngle.exists_value_eq (w : WrittenAngle) {c : Nat}
    (minutes : (w.numeral none).magnitude ≤ 60 * c) (degrees : digitsValue w.degrees + c ≤ limit)
    (hl : limit < 2 ^ 40) : ∃ rank, w.value none = .finite false rank ∧
      Format.binary64.magnitude rank ≤ limit := by
  obtain ⟨i, hi, i_eq⟩ := Binary.exists_double_ofNat (n := digitsValue w.degrees) (by omega)
  obtain ⟨k, hk, k_eq⟩ := Binary.exists_double_ofNat (n := 60) (by decide)
  obtain ⟨m, hm, m_le⟩ := Binary.exists_round_le (n := 60 * c)
    (Numeral.magnitude_nonneg (w.numeral none)) (by exact_mod_cast minutes) (by omega)
  obtain ⟨part, hp, part_le⟩ := Binary.exists_round_le (n := c)
    (x := Format.binary64.magnitude m / 60)
    (div_nonneg (Format.binary64.magnitude_nonneg m) (by norm_num))
    (by rw [div_le_iff₀ (by norm_num)]; push_cast at m_le; linarith) (by omega)
  obtain ⟨rank, hr, rank_le⟩ := Binary.exists_round_le (n := limit)
    (x := digitsValue w.degrees + Format.binary64.magnitude part)
    (add_nonneg (Nat.cast_nonneg _) (Format.binary64.magnitude_nonneg part))
    (by
      have degrees : (digitsValue w.degrees + c : Rat) ≤ limit := by exact_mod_cast degrees
      linarith) (by omega)
  refine ⟨rank, ?_, rank_le⟩
  rw [value, hi, hm, hk, Binary.finite_div_finite _ _ _ (by rw [k_eq]; norm_num), k_eq,
    Bool.xor_false, Nat.cast_ofNat, hp, Binary.finite_add_finite, i_eq, hr]

/-- What is written of an angle up to a whole number of degrees is read as one up to it. -/
theorem WrittenAngle.exists_parseDegrees_ofThousandths (width : Nat)
    (h : n ≤ thousandthsPerDegree * limit) (hl : limit ≤ 180) :
    ∃ rank, parseDegrees (ofThousandths width n).text = some (.finite false rank) ∧
      Format.binary64.magnitude rank ≤ limit := by
  let w := ofThousandths width n
  have degrees : digitsValue w.degrees = n / 60000 := digitsValue_padded _ _
  have minutes : (w.numeral none).magnitude = (n % 60000 : Nat) * (10 : Rat) ^ (-3 : Int) := by
    rw [numeral_ofThousandths, Numeral.magnitude_fixed]
    rfl
  have h : n ≤ 60000 * limit := h
  have rest : n % 60000 < 60000 := Nat.mod_lt n (by decide)
  have range : (w.numeral none).magnitude < 60 - 2 ^ (-48 : Int) := by
    have rest : ((n % 60000 : Nat) : Rat) ≤ 59999 := by exact_mod_cast Nat.le_of_lt_succ rest
    rw [minutes]
    norm_num
    linarith
  have read := w.parseDegrees_text_append (fun _ => rfl) (by omega) range
  rw [Option.elim, List.append_nil] at read
  obtain ⟨c, carry, minutes_le⟩ : ∃ c, n / 60000 + c ≤ limit ∧
      (w.numeral none).magnitude ≤ 60 * (c : Nat) := by
    by_cases none : n % 60000 = 0
    · refine ⟨0, by omega, ?_⟩
      rw [minutes, none]
      norm_num
    · refine ⟨1, by omega, range.le.trans ?_⟩
      norm_num
  obtain ⟨rank, value, le⟩ := w.exists_value_eq minutes_le
    (by omega : digitsValue w.degrees + c ≤ limit) (by omega)
  exact ⟨rank, by rw [read, value], le⟩

namespace Record

/-! ### The two axes -/

/-- An axis that ends at a whole number of degrees, which its width has room for. -/
structure Axis.Reaches (axis : Axis) (limit : Nat) : Prop where
  limit_eq : axis.limit = .ofNat limit
  le_half_turn : limit ≤ 180
  width_pos : 0 < axis.width
  lt_ten_pow_width : limit < 10 ^ axis.width
  isFieldText_letters : isFieldText [axis.positive, axis.negative] = true
  positive_ne : axis.positive ≠ axis.negative

theorem Axis.reaches_latitude : Axis.latitude.Reaches 90 where
  limit_eq := rfl
  le_half_turn := by decide
  width_pos := by decide
  lt_ten_pow_width := by decide
  isFieldText_letters := rfl
  positive_ne := by decide

theorem Axis.reaches_longitude : Axis.longitude.Reaches 180 where
  limit_eq := rfl
  le_half_turn := by decide
  width_pos := by decide
  lt_ten_pow_width := by decide
  isFieldText_letters := rfl
  positive_ne := by decide

/-- The letter of the side that a number of degrees lies on. -/
def Axis.letter (axis : Axis) (x : Rat) : Char := if x < 0 then axis.negative else axis.positive

theorem Axis.Reaches.isFieldText_letter (h : axis.Reaches limit) (x : Rat) :
    isFieldText [axis.letter x] = true := by
  have letters := h.isFieldText_letters
  rw [isFieldText_cons, Bool.and_eq_true] at letters
  rw [Axis.letter]
  split
  · exact letters.2
  · rw [isFieldText_cons, letters.1]
    rfl

theorem checkRange_eq_ok_iff (hl : limit < 2 ^ 53) (h : value.toRat? = some x) :
    checkRange value (.ofNat limit) = .ok () ↔ |x| ≤ limit := by
  have bound := Binary.toRat?_ofNat hl
  rw [checkRange, abs_le]
  split
  · next within =>
    rw [Bool.and_eq_true, Binary.le_iff_of_toRat? (Binary.toRat?_neg bound) h,
      Binary.le_iff_of_toRat? h bound] at within
    exact iff_of_true rfl within
  · next within =>
    rw [Bool.and_eq_true, Binary.le_iff_of_toRat? (Binary.toRat?_neg bound) h,
      Binary.le_iff_of_toRat? h bound] at within
    exact iff_of_false nofun within

/-! ### Reading -/

theorem coordinate_eq_ok (h : axis.Reaches limit) (hi : s.fields[index]? = some text)
    (hm : parseDegrees text = some m) (range : checkRange m axis.limit = .ok ())
    (hh : s.fields[hemisphere]? = some [axis.letter x]) :
    s.coordinate axis index hemisphere = .ok (if x < 0 then -m else m) := by
  have some_text : text ≠ [] := by
    rintro rfl
    cases hm
  have letter : s.get Char hemisphere = .ok (axis.letter x) :=
    get_eq_ok_iff.mpr ⟨_, hh, List.cons_ne_nil _ _, rfl⟩
  rw [coordinate, value_eq_ok_iff.mpr ⟨hi, some_text⟩]
  simp only [bind, Except.bind, hm, range, letter, Axis.letter]
  by_cases negative : x < 0
  · simp [negative, h.positive_ne.symm]
  · simp [negative]

end Record

/-! ### Writing -/

namespace Edit

theorem apply_setCoordinate (h : axis.Reaches limit) (hx : value.toRat? = some x)
    (range : |x| ≤ limit) (hi : index < r.count) (hh : hemisphere < r.count) :
    (setCoordinate axis index hemisphere value).apply r = (.ok (), { r with
      fields := (r.fields.set index (formatDegrees axis.width value)).set hemisphere
        [axis.letter x] }) := by
  have checked : Record.checkRange value axis.limit = .ok () := by
    rw [h.limit_eq, Record.checkRange_eq_ok_iff (by have := h.le_half_turn; omega) hx]
    exact range
  have letter : (if value.lt (.ofNat 0) then axis.negative else axis.positive) = axis.letter x := by
    have zero := Binary.toRat?_ofNat (n := 0) (by decide)
    have side := Binary.lt_iff_of_toRat? hx zero
    rw [Nat.cast_zero] at side
    simp only [side, Record.Axis.letter]
  have fits := (WrittenAngle.ofThousandths axis.width (toThousandths value)).isFieldText_text_append
    none
  rw [Option.elim, List.append_nil, ← formatDegrees_eq] at fits
  have letter_fits : isFieldText (FieldValue.write (axis.letter x)) = true :=
    h.isFieldText_letter x
  rw [Record.count] at hi hh
  simp only [setCoordinate, letter, setValue, apply_bind, apply_check, checked, apply_setField,
    fits, letter_fits, if_true, Record.count, hi, List.length_set, hh]
  rfl

/-- An angle is written into a field and the letter of its hemisphere into another, and then read
from there: how it is written, as a number of thousandths of a minute that the whole angle is
rounded to, and what is read. -/
structure IsCoordinateWritten (axis : Record.Axis) (limit : Nat) (r s : Record)
    (index hemisphere : Nat) (value : Double) (x : Rat) (w : WrittenAngle)
    (reading : Except Error Double) : Prop where
  record_eq : s = { r with
    fields := (r.fields.set index w.text).set hemisphere [axis.letter x] }
  length_degrees : w.degrees.length = axis.width
  minutes_lt : digitsValue w.minutes < 60
  length_decimals : w.decimals.map List.length = some 3
  digits_eq : thousandthsPerDegree * digitsValue w.degrees +
    digitsValue (w.minutes ++ w.decimals.getD []) = toThousandths value
  thousandths_le : toThousandths value ≤ thousandthsPerDegree * limit
  abs_sub_le : |60000 * |x| - toThousandths value| ≤ 1 / 2 + 2 ^ (-30 : Int)
  reading_eq : ∃ m, parseDegrees w.text = some m ∧ reading = .ok (if x < 0 then -m else m)
  parseWith_toText : r.Reachable → ∀ (v : Validator) (t : Option Terminator),
    v.lineEnding.allows t = true →
      (Record.parseWith v (s.toText ++ Terminator.endText t)).value = .ok s

theorem exists_isCoordinateWritten (h : axis.Reaches limit) (hx : value.toRat? = some x)
    (range : |x| ≤ limit) (hi : index < r.count) (hh : hemisphere < r.count)
    (ne : index ≠ hemisphere) : ∃ s w,
      (setCoordinate axis index hemisphere value).apply r = (.ok (), s) ∧
        IsCoordinateWritten axis limit r s index hemisphere value x w
          (s.coordinate axis index hemisphere) := by
  have half_turn : (limit : Rat) ≤ 180 := by exact_mod_cast h.le_half_turn
  have le := toThousandths_le hx h.le_half_turn range
  have applied := apply_setCoordinate h hx range hi hh
  rw [formatDegrees_eq] at applied
  obtain ⟨rank, read, m_le⟩ :=
    WrittenAngle.exists_parseDegrees_ofThousandths axis.width le h.le_half_turn
  have degrees_le : toThousandths value / thousandthsPerDegree ≤ limit :=
    Nat.div_le_of_le_mul le
  refine ⟨_, .ofThousandths axis.width (toThousandths value), applied, rfl,
    length_padded h.width_pos (degrees_le.trans_lt h.lt_ten_pow_width),
    (digitsValue_padded 2 _).trans_lt (minutes_lt_sixty _),
    WrittenAngle.length_decimals_ofThousandths _ _,
    WrittenAngle.digitsValue_ofThousandths _ _, le,
    abs_toThousandths_sub_le hx (range.trans half_turn), ⟨_, read, ?_⟩, ?_⟩
  · rw [Record.count] at hi hh
    refine Record.coordinate_eq_ok h ?_ read ?_ ?_
    · rw [List.getElem?_set_ne ne.symm, List.getElem?_set_self hi]
    · rw [h.limit_eq, Record.checkRange_eq_ok_iff (by have := h.le_half_turn; omega)
        (Binary.toRat?_finite false rank), if_neg Bool.false_ne_true,
        abs_of_nonneg (Format.binary64.magnitude_nonneg rank)]
      exact m_le
    · rw [List.getElem?_set_self (by rwa [List.length_set])]
  · intro reachable v t allowed
    have wf := keeps_setCoordinate keeps_wellFormed_setField axis index hemisphere value r
      reachable.wellFormed
    rw [applied] at wf
    exact wf.parseWith_toText allowed

end Edit

end Nmea
