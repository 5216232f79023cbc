import Mathlib.Algebra.Group.Nat.Defs
import Mathlib.Data.List.TakeDrop
import Mathlib.Data.List.TakeWhile
import Nmea.Proofs.Text.Class
import Nmea.Proofs.Text.Cut
import Nmea.Text.Numeral

/-!
# Runs of digits

The decimal digits of a number are digits, there is one of them at least, and a run of digits is
taken from the front of a text as it is.
-/

namespace Nmea

variable {digits rest t : Text} {n : Nat}

theorem decimal_ne_nil (n : Nat) : decimal n ≠ [] := Nat.toDigits_ne_nil

theorem all_isDigit_decimal (n : Nat) : (decimal n).all Char.isDigit = true := by
  rw [List.all_eq_true]
  intro c hc
  exact Nat.isDigit_of_mem_toDigits (by decide) (by decide) hc

/-- A run of digits is taken as it is if what follows does not begin with a digit. -/
theorem spanDigits_append (hd : digits.all Char.isDigit = true)
    (hr : ∀ c ∈ rest.head?, c.isDigit = false) : spanDigits (digits ++ rest) = (digits, rest) := by
  rw [spanDigits, List.span_eq_takeWhile_dropWhile, takeWhile_append_stop hd hr,
    dropWhile_append_stop hd hr]

theorem spanDigits_of_all (hd : digits.all Char.isDigit = true) :
    spanDigits digits = (digits, []) := by
  have h : spanDigits (digits ++ []) = (digits, []) := spanDigits_append hd nofun
  rwa [List.append_nil] at h

/-- A run of digits ends where no digit follows. -/
theorem spanDigits_eq_iff : spanDigits t = (digits, rest) ↔
    t = digits ++ rest ∧ digits.all Char.isDigit = true ∧ ∀ c ∈ rest.head?, c.isDigit = false := by
  constructor
  · intro h
    rw [spanDigits, List.span_eq_takeWhile_dropWhile] at h
    obtain ⟨rfl, rfl⟩ := Prod.mk.inj h
    refine ⟨List.takeWhile_append_dropWhile.symm, List.all_takeWhile, ?_⟩
    intro c hc
    have := List.head?_dropWhile_not Char.isDigit t
    rw [Option.mem_def.mp hc] at this
    exact this
  · rintro ⟨rfl, hd, hr⟩
    exact spanDigits_append hd hr

/-! ### Values -/

theorem exists_digitChar_of_isDigit {c : Char} (h : c.isDigit = true) :
    ∃ i : Fin 10, c = Nat.digitChar i := by
  obtain ⟨low, high⟩ := Char.isDigit_iff_toNat.mp h
  have low : 48 ≤ c.toNat := low
  have high : c.toNat ≤ 57 := high
  have lt : c.toNat - 48 < 10 := by omega
  refine ⟨⟨c.toNat - 48, lt⟩, ?_⟩
  rw [← Char.toNat_inj, Nat.toNat_digitChar_of_lt_ten lt]
  omega

@[simp] theorem digitsValue_nil : digitsValue [] = 0 := rfl

theorem digitsValue_append (digits rest : Text) : digitsValue (digits ++ rest) =
    10 ^ rest.length * digitsValue digits + digitsValue rest := by
  rw [digitsValue, Nat.ofDigitChars_append, Nat.ofDigitChars_eq_ofDigitChars_zero]
  rfl

theorem digitsValue_lt (hd : digits.all Char.isDigit = true) :
    digitsValue digits < 10 ^ digits.length := by
  induction digits with
  | nil => decide
  | cons c digits ih =>
    rw [List.all_cons, Bool.and_eq_true] at hd
    obtain ⟨i, rfl⟩ := exists_digitChar_of_isDigit hd.1
    have value : digitsValue [Nat.digitChar i] = i := by
      simp [digitsValue, Nat.ofDigitChars_cons_digitChar_of_lt_ten i.isLt]
    have rest := ih hd.2
    rw [← List.singleton_append, digitsValue_append, value, List.length_append,
      List.length_singleton, Nat.add_comm 1, Nat.pow_succ]
    have most := Nat.mul_le_mul_left (10 ^ digits.length) i.isLt
    rw [Nat.mul_succ] at most
    omega

/-- Zeros in front of a number change nothing. -/
theorem digitsValue_dropWhile (digits : Text) :
    digitsValue (digits.dropWhile (· = '0')) = digitsValue digits := by
  induction digits with
  | nil => rfl
  | cons c digits ih =>
    rw [List.dropWhile_cons]
    split
    · next hc =>
      have zero : digitsValue [c] = 0 := by
        rw [decide_eq_true_eq.mp hc]
        rfl
      rw [ih, ← List.singleton_append, digitsValue_append, zero, Nat.mul_zero, Nat.zero_add]
    · rfl

/-- A number that does not begin with a zero needs all of its digits. -/
theorem le_digitsValue {c : Char} (hc : c.isDigit = true) (nonzero : c ≠ '0') (digits : Text) :
    10 ^ digits.length ≤ digitsValue (c :: digits) := by
  obtain ⟨i, rfl⟩ := exists_digitChar_of_isDigit hc
  have pos : 0 < digitsValue [Nat.digitChar i] := by
    revert i
    decide
  rw [← List.singleton_append, digitsValue_append]
  exact Nat.le_trans (Nat.le_mul_of_pos_right _ pos) (Nat.le_add_right _ _)

theorem digitsValue_eq_zero (h : digits.all (· = '0') = true) : digitsValue digits = 0 := by
  have nothing : digits.dropWhile (· = '0') = [] :=
    List.dropWhile_eq_nil_iff.mpr (List.all_eq_true.mp h)
  rw [← digitsValue_dropWhile, nothing]
  rfl

/-- Nothing but zeros stands for zero. -/
theorem digitsValue_eq_zero_iff (hd : digits.all Char.isDigit = true) :
    digitsValue digits = 0 ↔ digits.all (· = '0') = true := by
  refine ⟨fun zero => ?_, digitsValue_eq_zero⟩
  rw [← digitsValue_dropWhile] at zero
  have first := List.head?_dropWhile_not (fun c => decide (c = '0')) digits
  cases significant : digits.dropWhile (· = '0') with
  | nil => exact List.all_eq_true.mpr (List.dropWhile_eq_nil_iff.mp significant)
  | cons c rest =>
    rw [significant] at zero first
    have hc : c ∈ digits := (List.dropWhile_suffix _).subset (significant ▸ List.mem_cons_self)
    have le := le_digitsValue (List.all_eq_true.mp hd c hc) (by simpa using first) rest
    exact absurd zero (Nat.ne_of_gt (Nat.lt_of_lt_of_le (Nat.pow_pos (by decide)) le))

theorem any_nonzero_iff (hd : digits.all Char.isDigit = true) :
    digits.any (fun c => '1' ≤ c && c ≤ '9') = true ↔ digitsValue digits ≠ 0 := by
  have digit (i : Fin 10) : ('1' ≤ Nat.digitChar i && Nat.digitChar i ≤ '9') = true ↔
      ¬ decide (Nat.digitChar i = '0') = true := by
    revert i
    decide
  rw [Ne, digitsValue_eq_zero_iff hd, List.any_eq_true, List.all_eq_true]
  simp only [not_forall, exists_prop]
  refine exists_congr fun c => and_congr_right fun hc => ?_
  obtain ⟨i, rfl⟩ := exists_digitChar_of_isDigit (List.all_eq_true.mp hd c hc)
  exact digit i

/-! ### Decimal digits -/

theorem lt_ten_pow_length_decimal (n : Nat) : n < 10 ^ (decimal n).length :=
  (Nat.length_toDigits_le_iff (by decide) (List.length_pos_iff.mpr (decimal_ne_nil n))).mp
    (Nat.le_refl _)

theorem ten_pow_le_of_length_decimal (hn : 0 < n) : 10 ^ ((decimal n).length - 1) ≤ n := by
  rcases Nat.eq_zero_or_pos ((decimal n).length - 1) with one | more
  · rw [one]
    exact hn
  · refine Nat.le_of_not_lt fun lt => ?_
    have := (Nat.length_toDigits_le_iff (b := 10) (by decide) more).mpr lt
    rw [← decimal] at this
    omega

/-- A number above zero does not begin with a zero. -/
theorem head?_decimal_ne (hn : 0 < n) : (decimal n).head? ≠ some '0' := by
  have all := all_isDigit_decimal n
  have value := digitsValue_decimal n
  have low := ten_pow_le_of_length_decimal hn
  generalize decimal n = written at *
  match written with
  | [] => nofun
  | c :: rest =>
    rintro ⟨⟩
    rw [List.all_cons, Bool.and_eq_true] at all
    have lt := digitsValue_lt all.2
    have zero : digitsValue ['0'] = 0 := rfl
    rw [← List.singleton_append, digitsValue_append, zero, Nat.mul_zero, Nat.zero_add] at value
    rw [List.length_cons, Nat.add_sub_cancel] at low
    omega

/-! ### Padding -/

theorem all_isDigit_padded (width n : Nat) : (padded width n).all Char.isDigit = true := by
  simp [padded, List.leftpad, all_isDigit_decimal]

theorem digitsValue_padded (width n : Nat) : digitsValue (padded width n) = n := by
  rw [padded, List.leftpad, digitsValue_append, digitsValue_eq_zero (by simp), Nat.mul_zero,
    Nat.zero_add, digitsValue_decimal]

theorem padded_zero (n : Nat) : padded 0 n = decimal n := by
  simp [padded, List.leftpad]

theorem length_padded_eq_max (width n : Nat) :
    (padded width n).length = max width (decimal n).length := List.length_leftpad

theorem length_padded {width n : Nat} (hw : 0 < width) (h : n < 10 ^ width) :
    (padded width n).length = width := by
  rw [length_padded_eq_max, Nat.max_eq_left]
  exact (Nat.length_toDigits_le_iff (by decide) hw).mpr h

theorem length_padded_mod {width : Nat} (hw : 0 < width) (n : Nat) :
    (padded width (n % 10 ^ width)).length = width :=
  length_padded hw (Nat.mod_lt n (Nat.pow_pos (by decide)))

theorem max_one_le_length_padded (width n : Nat) : max width 1 ≤ (padded width n).length := by
  have := List.length_pos_iff.mpr (decimal_ne_nil n)
  rw [length_padded_eq_max]
  omega

theorem padded_ne_nil (width n : Nat) : padded width n ≠ [] := by
  have := max_one_le_length_padded width n
  exact List.ne_nil_of_length_pos (by omega)

/-- Only numbers that are too short are padded. -/
theorem head?_padded_ne {width : Nat} (h : max width 1 < (padded width n).length) :
    (padded width n).head? ≠ some '0' := by
  have length := length_padded_eq_max width n
  have none_added : padded width n = decimal n := by
    rw [padded, List.leftpad, Nat.sub_eq_zero_of_le (by omega)]
    rfl
  have pos : 0 < n := by
    refine Nat.pos_of_ne_zero fun zero => ?_
    rw [none_added, zero] at h
    have one : (decimal 0).length = 1 := rfl
    omega
  rw [none_added]
  exact head?_decimal_ne pos

/-- What stands behind a number is not in the way of padding it. -/
theorem leftpad_append (width : Nat) (c : Char) (s t : Text) :
    List.leftpad (width + t.length) c (s ++ t) = List.leftpad width c s ++ t := by
  rw [List.leftpad, List.leftpad, List.length_append, Nat.add_sub_add_right, List.append_assoc]

/-! ### Texts of fields -/

/-- Digits can stand in a field. -/
theorem isFieldText_of_all_isDigit (hd : digits.all Char.isDigit = true) :
    isFieldText digits = true := by
  refine all_mono ?_ hd
  intro c hc
  exact isFieldChar_of_isAddressChar (by simp [isAddressChar, hc])

end Nmea
