import Nmea.Proofs.Field.Integer
import Nmea.Proofs.Record.Value

/-!
# Integers, characters and texts in fields

An integer is read from a field by every type of words that holds it, and by no other, whatever type
has written it and however it is padded with zeros (`Record.holdsInt`). Characters and texts are
written as they are, if they can stand in a field at all, and read as they were written
(`Record.readsBackWords`).
-/

namespace Nmea

variable {r s : Record} {index width : Nat} {text : Text} {n : Int}

/-! ### Words -/

namespace FixedWidth

/-- The words of a type are all the integers between its bounds. -/
class Full (α : Type) [FixedWidth α] : Prop extends Lawful α where
  /-- Every integer between the bounds is that of a word. -/
  toInt_ofInt (n : Int) (ge : least α ≤ n) (le : n ≤ greatest α) : toInt (ofInt n : α) = n

variable {α : Type} [FixedWidth α]

theorem ofInt?_eq_some_iff [Full α] {word : α} : ofInt? n = some word ↔ toInt word = n := by
  constructor
  · intro h
    rw [ofInt?] at h
    split at h
    · next within =>
      simp only [Bool.and_eq_true, decide_eq_true_eq] at within
      cases h
      exact Full.toInt_ofInt n within.1 within.2
    · cases h
  · rintro rfl
    exact ofInt?_toInt word

theorem readAll_signedPadded_eq_some_iff [Full α] {word : α} :
    FieldValue.readAll (signedPadded width n) = some word ↔ toInt word = n := by
  rw [FieldValue.readAll_eq_some_iff]
  show read (signedPadded width n) = some (word, []) ↔ _
  rw [read_signedPadded, Option.map_eq_some_iff]
  simp [ofInt?_eq_some_iff]

/-! ### The eight widths -/

/-- A natural number below the size of a type is not wrapped by it. -/
theorem cast_toNat_mod {size : Nat} (ge : 0 ≤ n) (lt : n < size) :
    ((n.toNat % size : Nat) : Int) = n := by
  rw [Nat.mod_eq_of_lt (by omega), Int.toNat_of_nonneg ge]

instance : Full UInt8 where
  toInt_ofInt _ ge le := (Int.natCast_inj.mpr UInt8.toNat_ofNat').trans
    (cast_toNat_mod ge (Int.lt_add_one_iff.mpr le))

instance : Full UInt16 where
  toInt_ofInt _ ge le := (Int.natCast_inj.mpr UInt16.toNat_ofNat').trans
    (cast_toNat_mod ge (Int.lt_add_one_iff.mpr le))

instance : Full UInt32 where
  toInt_ofInt _ ge le := (Int.natCast_inj.mpr UInt32.toNat_ofNat').trans
    (cast_toNat_mod ge (Int.lt_add_one_iff.mpr le))

instance : Full UInt64 where
  toInt_ofInt _ ge le := (Int.natCast_inj.mpr UInt64.toNat_ofNat').trans
    (cast_toNat_mod ge (Int.lt_add_one_iff.mpr le))

instance : Full Int8 where
  toInt_ofInt _ ge le := Int8.toInt_ofInt_of_le ge (Int.lt_add_one_iff.mpr le)

instance : Full Int16 where
  toInt_ofInt _ ge le := Int16.toInt_ofInt_of_le ge (Int.lt_add_one_iff.mpr le)

instance : Full Int32 where
  toInt_ofInt _ ge le := Int32.toInt_ofInt_of_le ge (Int.lt_add_one_iff.mpr le)

instance : Full Int64 where
  toInt_ofInt _ ge le := Int64.toInt_ofInt_of_le ge (Int.lt_add_one_iff.mpr le)

end FixedWidth

namespace Record

open FixedWidth

/-- A field holds an integer as its text: the types of words read it as the word of this integer,
or fail if they have none. -/
structure HoldsInt (r : Record) (index : Nat) (text : Text) (n : Int) : Prop where
  field_eq : r.fields[index]? = some text
  get_eq_ok_iff : ∀ {α : Type} [FixedWidth α] [Full α] (word : α),
    r.get α index = .ok word ↔ toInt word = n
  get_eq_error : ∀ (α : Type) [FixedWidth α] [Full α], (∀ word : α, toInt word ≠ n) →
    r.get α index = .error (.fieldParse index text (FixedWidth.name α))

/-- Zeros in front of an integer make no difference. -/
theorem holdsInt (h : r.fields[index]? = some (signedPadded width n)) :
    r.HoldsInt index (signedPadded width n) n := by
  have read {α : Type} [FixedWidth α] [Full α] (word : α) :
      r.get α index = .ok word ↔ toInt word = n := by
    rw [get_eq_ok_iff]
    simp only [h, Option.some.injEq, exists_eq_left', readAll_signedPadded_eq_some_iff,
      signedPadded_ne_nil, ne_eq, not_false_eq_true, true_and]
  refine ⟨h, read, ?_⟩
  intro α _ _ none_fits
  cases answer : r.get α index with
  | ok word => exact absurd ((read word).mp answer) (none_fits word)
  | error why => rw [eq_fieldParse_of_get h (signedPadded_ne_nil width n) answer]; rfl

/-! ### Reading what was written -/

theorem exists_holdsInt (hi : index < r.count) (width : Nat) (n : Int) : ∃ s,
    (Edit.setField index (signedPadded width n)).apply r = (.ok (), s) ∧
      s.HoldsInt index (signedPadded width n) n := by
  obtain ⟨s, applied⟩ :=
    (Edit.exists_apply_setField_iff hi).mpr (isFieldText_signedPadded width n)
  exact ⟨s, applied, holdsInt (Edit.getElem?_of_apply_setField applied)⟩

/-- Integers, characters and texts are written into a field and read from it again. An integer is
always written, with as many characters as it is padded to or as it needs, and a character or a text
exactly if the framing is safe from it. -/
structure ReadsBackWords (r : Record) (index : Nat) : Prop where
  setValue_word : ∀ {α : Type} [FixedWidth α] [Full α] (word : α), ∃ s,
    (Edit.setValue index word).apply r = (.ok (), s) ∧ s.get α index = .ok word ∧
      s.HoldsInt index (signedDecimal (toInt word)) (toInt word)
  setInt : ∀ (word : Int32) (leading : Nat), ∃ s text,
    (Edit.setInt index word leading).apply r = (.ok (), s) ∧ s.get Int32 index = .ok word ∧
      s.HoldsInt index text word.toInt ∧
      text.length = max leading (signedDecimal word.toInt).length
  setValue_char : ∀ c : Char,
    (∃ s, (Edit.setValue index c).apply r = (.ok (), s)) ↔ IsFramingSafe [c]
  get_char : ∀ (c : Char) s, (Edit.setValue index c).apply r = (.ok (), s) →
    s.get Char index = .ok c
  setField_text : ∀ t : Text,
    (∃ s, (Edit.setField index t).apply r = (.ok (), s)) ↔ IsFramingSafe t
  value_text : ∀ (t : Text) s, (Edit.setField index t).apply r = (.ok (), s) → t ≠ [] →
    s.value index = .ok t ∧ s.get Text index = .ok t

/-- Every field that is there reads back what is written into it. -/
theorem readsBackWords (hi : index < r.count) : r.ReadsBackWords index where
  setValue_word word := by
    obtain ⟨s, applied, holds⟩ := exists_holdsInt hi 0 (toInt word)
    rw [signedPadded_zero] at applied holds
    exact ⟨s, applied, (holds.get_eq_ok_iff word).mpr rfl, holds⟩
  setInt word leading := by
    obtain ⟨s, applied, holds⟩ := exists_holdsInt hi leading word.toInt
    exact ⟨s, _, applied, (holds.get_eq_ok_iff word).mpr rfl, holds, length_signedPadded _ _⟩
  setValue_char c := (Edit.exists_apply_setField_iff hi).trans isFieldText_iff
  get_char c s h :=
    get_eq_ok_iff.mpr ⟨[c], Edit.getElem?_of_apply_setField h, List.cons_ne_nil _ _, rfl⟩
  setField_text t := (Edit.exists_apply_setField_iff hi).trans isFieldText_iff
  value_text t s h some_text := by
    have field := Edit.getElem?_of_apply_setField h
    exact ⟨value_eq_ok_iff.mpr ⟨field, some_text⟩, get_eq_ok_iff.mpr ⟨t, field, some_text, rfl⟩⟩

/-- The least byte is read by the types with negative numbers only. -/
theorem readsBackWords_least_byte :
    let r := Record.blank .standard (.named .II) "XDR".toList 2
    1 < r.count ∧ r.ReadsBackWords 1 ∧
      ∃ s, (Edit.setValue 1 (-128 : Int8)).apply r = (.ok (), s) ∧
        s.get Int64 1 = .ok (-128) ∧
        s.get UInt8 1 = .error (.fieldParse 1 "-128".toList "u8".toList) := by
  intro r
  have there : 1 < r.count := by decide
  have back := readsBackWords there
  obtain ⟨s, applied, -, holds⟩ := back.setValue_word (-128 : Int8)
  refine ⟨there, back, s, applied, (holds.get_eq_ok_iff (-128 : Int64)).mpr rfl, ?_⟩
  refine holds.get_eq_error UInt8 fun word same => ?_
  have least : (0 : Int) ≤ toInt word := Lawful.least_le_toInt word
  rw [same] at least
  exact absurd least (by decide)

example : signedPadded 5 (-42) = "-0042".toList ∧ signedPadded 2 1234 = "1234".toList := by decide

end Record

end Nmea
