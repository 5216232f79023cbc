import Nmea.Field.Integer
import Nmea.Proofs.Text.Numeral

/-!
# Integers in fields

A run of digits is read as the integer that it stands for, if the type holds it, and a minus in
front of it is looked at only by the types that have negative numbers. Therefore every word of a
lawful type is read again from what it is written as (`FixedWidth.readAll_write`).
-/

namespace Nmea

/-! ### Signs -/

theorem spanSign_cons_of_isDigit {c : Char} (h : c.isDigit = true) (t : Text) :
    spanSign (c :: t) = (none, c :: t) := by
  unfold spanSign
  split
  · next e =>
    cases e
    cases h
  · next e =>
    cases e
    cases h
  · rfl

/-- A number is written in digits, and a negative one behind a minus. -/
theorem signedPadded_cases (width : Nat) (n : Int) :
    (0 ≤ n ∧ signedPadded width n = padded width n.natAbs) ∨
      (n < 0 ∧ signedPadded width n = '-' :: padded (width - 1) n.natAbs) := by
  rw [signedPadded]
  split
  · next h => exact .inr ⟨h, rfl⟩
  · next h => exact .inl ⟨Int.not_lt.mp h, rfl⟩

/-- No number is too short for a width of zero. -/
theorem signedPadded_zero (n : Int) : signedPadded 0 n = signedDecimal n := by
  rw [signedPadded, signedDecimal, padded_zero]

theorem signedPadded_ne_nil (width : Nat) (n : Int) : signedPadded width n ≠ [] := by
  rcases signedPadded_cases width n with ⟨-, e⟩ | ⟨-, e⟩
  · rw [e]
    exact padded_ne_nil _ _
  · rw [e]
    exact List.cons_ne_nil _ _

theorem isFieldText_signedPadded (width : Nat) (n : Int) :
    isFieldText (signedPadded width n) = true := by
  rcases signedPadded_cases width n with ⟨-, e⟩ | ⟨-, e⟩
  · rw [e, isFieldText_of_all_isDigit (all_isDigit_padded _ _)]
  · rw [e, isFieldText_cons, isFieldText_of_all_isDigit (all_isDigit_padded _ _)]
    rfl

/-- The sign counts in the width. -/
theorem length_signedPadded (width : Nat) (n : Int) :
    (signedPadded width n).length = max width (signedDecimal n).length := by
  rw [signedPadded, signedDecimal]
  split
  · rw [List.length_cons, List.length_cons, length_padded_eq_max]
    omega
  · exact length_padded_eq_max _ _

namespace FixedWidth

/-- The words of a type are the integers between its bounds. -/
class Lawful (α : Type) [FixedWidth α] : Prop where
  /-- No word is less than the least integer. -/
  least_le_toInt (word : α) : least α ≤ toInt word
  /-- No word is greater than the greatest integer. -/
  toInt_le_greatest (word : α) : toInt word ≤ greatest α
  /-- A word is the word of its integer. -/
  ofInt_toInt (word : α) : ofInt (toInt word) = word

variable {α : Type} [FixedWidth α] {digits : Text}

/-! ### Reading -/

/-- A run of digits is read as the integer that it stands for, whatever comes after it. -/
theorem read_append {rest : Text} (hd : digits.all Char.isDigit = true) (hn : digits ≠ [])
    (hr : ∀ c ∈ rest.head?, c.isDigit = false) :
    read (digits ++ rest) = (ofInt? (digitsValue digits)).map fun word : α => (word, rest) := by
  obtain ⟨c, t, rfl⟩ := List.exists_cons_of_ne_nil hn
  have unsigned : spanSign (c :: t ++ rest) = (none, c :: t ++ rest) := by
    rw [List.all_cons, Bool.and_eq_true] at hd
    exact spanSign_cons_of_isDigit hd.1 _
  have sign : (if least α < 0 then spanSign (c :: t ++ rest) else (none, c :: t ++ rest)) =
      (none, c :: t ++ rest) := by
    rw [unsigned, ite_self]
  rw [read, sign]
  dsimp only
  rw [spanDigits_append hd hr]
  rfl

theorem read_of_all_isDigit (hd : digits.all Char.isDigit = true) (hn : digits ≠ []) :
    read digits = (ofInt? (digitsValue digits)).map fun word : α => (word, []) := by
  have h : read (digits ++ []) = (ofInt? (digitsValue digits)).map fun word : α => (word, []) :=
    read_append hd hn nofun
  rwa [List.append_nil] at h

/-- A type without negative numbers reads nothing but digits. -/
theorem read_eq_none {t : Text} (hl : ¬ least α < 0) (ht : ∀ c ∈ t.head?, c.isDigit = false) :
    (read t : Option (α × Text)) = none := by
  have h : spanDigits ([] ++ t) = ([], t) := spanDigits_append rfl ht
  rw [List.nil_append] at h
  rw [read, if_neg hl]
  dsimp only
  rw [h]

/-- A type without negative numbers reads the digits of the integers that it holds. -/
theorem read_eq_some_iff {t : Text} {word : α} (hl : ¬ least α < 0) : read t = some (word, []) ↔
    t.all Char.isDigit = true ∧ t ≠ [] ∧ ofInt? (digitsValue t) = some word := by
  constructor
  · intro h
    rw [read, if_neg hl] at h
    dsimp only at h
    split at h
    · cases h
    · next digits rest some_digit run =>
      obtain ⟨found, hf, e⟩ := Option.map_eq_some_iff.mp h
      cases e
      obtain ⟨rfl, hd, -⟩ := spanDigits_eq_iff.mp run
      rw [List.append_nil]
      exact ⟨hd, some_digit, hf⟩
  · rintro ⟨hd, hn, hw⟩
    rw [read_of_all_isDigit hd hn, hw]
    rfl

theorem read_minus (hl : least α < 0) (hd : digits.all Char.isDigit = true) (hn : digits ≠ []) :
    read ('-' :: digits) = (ofInt? (-digitsValue digits)).map fun word : α => (word, []) := by
  obtain ⟨c, t, rfl⟩ := List.exists_cons_of_ne_nil hn
  rw [read, if_pos hl, spanSign]
  dsimp only
  rw [spanDigits_of_all hd]
  rfl

theorem ofInt?_eq_none {n : Int} (h : n < least α) : (ofInt? n : Option α) = none := by
  rw [ofInt?, if_neg]
  simp only [Bool.and_eq_true, decide_eq_true_eq, not_and]
  exact fun le => absurd h (Int.not_lt.mpr le)

/-- A written integer is read by exactly the types that hold it, however it is padded. -/
theorem read_signedPadded (width : Nat) (n : Int) :
    read (signedPadded width n) = (ofInt? n).map fun word : α => (word, []) := by
  rcases signedPadded_cases width n with ⟨positive, e⟩ | ⟨negative, e⟩
  · have abs : (n.natAbs : Int) = n := Int.natAbs_of_nonneg positive
    rw [e, read_of_all_isDigit (all_isDigit_padded _ _) (padded_ne_nil _ _), digitsValue_padded,
      abs]
  · have abs : -(n.natAbs : Int) = n := by omega
    rw [e]
    by_cases signed : least α < 0
    · rw [read_minus signed (all_isDigit_padded _ _) (padded_ne_nil _ _), digitsValue_padded, abs]
    · rw [read_eq_none signed (by simp), ofInt?_eq_none (by omega)]
      rfl

/-! ### Writing -/

theorem ofInt?_toInt [Lawful α] (word : α) : ofInt? (toInt word) = some word := by
  rw [ofInt?, if_pos, Lawful.ofInt_toInt]
  simp only [Bool.and_eq_true, decide_eq_true_eq]
  exact ⟨Lawful.least_le_toInt word, Lawful.toInt_le_greatest word⟩

theorem write_eq_signedPadded (word : α) :
    FieldValue.write word = signedPadded 0 (toInt word) :=
  (signedPadded_zero _).symm

/-- A word is read again from what it is written as. -/
theorem readAll_write [Lawful α] (word : α) :
    FieldValue.readAll (FieldValue.write word) = some word := by
  have h : read (FieldValue.write word) = some (word, []) := by
    rw [write_eq_signedPadded, read_signedPadded, ofInt?_toInt]
    rfl
  unfold FieldValue.readAll
  rw [show FieldValue.read (FieldValue.write word) = some (word, []) from h]

theorem write_ne_nil (word : α) : FieldValue.write word ≠ [] := by
  rw [write_eq_signedPadded]
  exact signedPadded_ne_nil _ _

theorem isFieldText_write (word : α) : isFieldText (FieldValue.write word) = true := by
  rw [write_eq_signedPadded]
  exact isFieldText_signedPadded _ _

/-! ### The eight widths -/

instance : Lawful UInt8 where
  least_le_toInt word := Int.natCast_nonneg word.toNat
  toInt_le_greatest word := by
    have := word.toNat_lt
    show (word.toNat : Int) ≤ 255
    omega
  ofInt_toInt word := UInt8.ofNat_toNat

instance : Lawful UInt16 where
  least_le_toInt word := Int.natCast_nonneg word.toNat
  toInt_le_greatest word := by
    have := word.toNat_lt
    show (word.toNat : Int) ≤ 65535
    omega
  ofInt_toInt word := UInt16.ofNat_toNat

instance : Lawful UInt32 where
  least_le_toInt word := Int.natCast_nonneg word.toNat
  toInt_le_greatest word := by
    have := word.toNat_lt
    show (word.toNat : Int) ≤ 4294967295
    omega
  ofInt_toInt word := UInt32.ofNat_toNat

instance : Lawful UInt64 where
  least_le_toInt word := Int.natCast_nonneg word.toNat
  toInt_le_greatest word := by
    have := word.toNat_lt
    show (word.toNat : Int) ≤ 18446744073709551615
    omega
  ofInt_toInt word := UInt64.ofNat_toNat

instance : Lawful Int8 where
  least_le_toInt := Int8.le_toInt
  toInt_le_greatest := Int8.toInt_le
  ofInt_toInt := Int8.ofInt_toInt

instance : Lawful Int16 where
  least_le_toInt := Int16.le_toInt
  toInt_le_greatest := Int16.toInt_le
  ofInt_toInt := Int16.ofInt_toInt

instance : Lawful Int32 where
  least_le_toInt := Int32.le_toInt
  toInt_le_greatest := Int32.toInt_le
  ofInt_toInt := Int32.ofInt_toInt

instance : Lawful Int64 where
  least_le_toInt := Int64.le_toInt
  toInt_le_greatest := Int64.toInt_le
  ofInt_toInt := Int64.ofInt_toInt

end FixedWidth

end Nmea
