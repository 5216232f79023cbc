import Nmea.Proofs.Record.Atomic

/-!
# Replacing the tail of a record

The fields from one on are replaced at once. Nothing is replaced unless the record has all the
fields that are kept and every new text can stand in a field; otherwise the record stays as it was,
and the first thing that is wrong is reported (`Record.replacesTail`). A record does not lose its
last field: where neither old nor new fields are left, an empty one takes their place.
-/

namespace Nmea

variable {r s : Record} {first : Nat} {values : List Text}

namespace Edit

/-! ### Success -/

theorem nonempty_eq_ite (fields : List Text) :
    nonempty fields = if fields = [] then [[]] else fields := by
  cases fields <;> rfl

theorem apply_setValues_eq_ok_iff : (setValues first values).apply r = (.ok (), s) ↔
    first ≤ r.count ∧ (∀ text ∈ values, isFieldText text = true) ∧
      s = { r with fields := nonempty (r.fields.take first ++ values) } := by
  rw [apply_setValues, ← @checkValues_eq_ok_iff first values]
  by_cases within : first ≤ r.count
  · rw [if_neg (Nat.not_lt.mpr within)]
    cases checkValues first values with
    | error why => simp
    | ok u => simp [within, eq_comm]
  · rw [if_pos (Nat.not_le.mp within)]
    simp [within]

/-! ### Failure -/

/-- The fields that are kept are looked for before the new texts are looked at. -/
theorem of_apply_setValues_eq_error {why : Error}
    (h : (setValues first values).apply r = (.error why, s)) :
    (r.count < first ∧ why = r.outOfRange first) ∨
      (first ≤ r.count ∧ checkValues first values = .error why) := by
  rw [apply_setValues] at h
  split at h
  · next missing =>
    cases h
    exact .inl ⟨missing, rfl⟩
  · next there =>
    split at h
    · cases h
    · next unfit =>
      cases h
      exact .inr ⟨Nat.not_lt.mp there, unfit⟩

theorem keeps_fields_ne_nil_setValues (first : Nat) (values : List Text) :
    Keeps (fun r => r.fields ≠ []) (setValues first values) := by
  intro r h
  rw [apply_setValues]
  split
  · exact h
  · split
    · exact nonempty_ne_nil _
    · exact h

end Edit

/-! ### Both outcomes -/

namespace Record

theorem fieldsFrom_of_eq_take_append (within : first ≤ r.count)
    (h : s.fields = r.fields.take first ++ values) : s.fieldsFrom first = .ok values := by
  have kept : (r.fields.take first).length = first := List.length_take_of_le within
  have enough : first ≤ s.count := by
    rw [count, h, List.length_append, kept]
    exact Nat.le_add_right _ _
  rw [fieldsFrom, if_pos enough, h, List.drop_left' kept]

theorem take_append_eq_nil_iff (within : first ≤ r.count) :
    r.fields.take first ++ values = [] ↔ first = 0 ∧ values = [] := by
  rw [List.append_eq_nil_iff, ← List.length_eq_zero_iff, List.length_take_of_le within]

/-- What replacing the fields from one on does to a record. -/
structure ReplacesTail (r : Record) (first : Nat) (values : List Text) : Prop where
  /-- The fields that are kept have to be there, and the framing safe from the new texts. -/
  ok_iff : (∃ s, (Edit.setValues first values).apply r = (.ok (), s)) ↔
    first ≤ r.count ∧ ∀ text ∈ values, IsFramingSafe text
  /-- The new texts stand behind the fields that were kept, and nothing else is different. -/
  replaced : ∀ s, (Edit.setValues first values).apply r = (.ok (), s) →
    s = { r with fields :=
      if r.fields.take first ++ values = [] then [[]] else r.fields.take first ++ values }
  /-- The new texts are found again, unless an empty field is all that is left. -/
  fieldsFrom_iff : ∀ s, (Edit.setValues first values).apply r = (.ok (), s) →
    (s.fieldsFrom first = .ok values ↔ ¬ (first = 0 ∧ values = []))
  /-- A failure changes nothing and reports a missing field or, if the fields that are kept are all
  there, the first text that the framing is not safe from, under the index it would have. -/
  failed : ∀ why s, (Edit.setValues first values).apply r = (.error why, s) → s = r ∧
    ((r.count < first ∧ why = .indexOutOfRange first r.count) ∨
      (first ≤ r.count ∧ ∃ before bad after, values = before ++ bad :: after ∧
        (∀ text ∈ before, IsFramingSafe text) ∧ ¬ IsFramingSafe bad ∧
          why = .invalidFieldValue (first + before.length) bad))
  some_field : r.fields ≠ [] → ((Edit.setValues first values).apply r).2.fields ≠ []

theorem replacesTail (r : Record) (first : Nat) (values : List Text) :
    r.ReplacesTail first values where
  ok_iff := by
    simp [Edit.apply_setValues_eq_ok_iff, isFieldText_iff]
  replaced s h := by
    obtain ⟨-, -, rfl⟩ := Edit.apply_setValues_eq_ok_iff.mp h
    rw [Edit.nonempty_eq_ite]
  fieldsFrom_iff s h := by
    obtain ⟨within, -, rfl⟩ := Edit.apply_setValues_eq_ok_iff.mp h
    rw [← take_append_eq_nil_iff within, Edit.nonempty_eq_ite]
    by_cases none_left : r.fields.take first ++ values = []
    · obtain ⟨rfl, rfl⟩ := (take_append_eq_nil_iff within).mp none_left
      -- the one empty field is not a list of none
      simp [fieldsFrom]
    · rw [if_neg none_left]
      exact iff_of_true (fieldsFrom_of_eq_take_append within rfl) none_left
  failed why s h := by
    refine ⟨Edit.atomic_setValues first values r why s h, ?_⟩
    rcases Edit.of_apply_setValues_eq_error h with ⟨missing, rfl⟩ | ⟨within, unfit⟩
    · exact .inl ⟨missing, rfl⟩
    · simp only [← isFieldText_iff]
      exact .inr ⟨within, Edit.exists_unfit_of_checkValues unfit⟩
  some_field := Edit.keeps_fields_ne_nil_setValues first values r

/-- A comma in the last of several texts that would grow the record. -/
example :
    let r := Record.blank .standard (.named .II) "XDR".toList 2
    (Edit.setValues 2 [['C'], "19,52".toList]).apply r =
      (.error (.invalidFieldValue 3 "19,52".toList), r) := by decide

end Record

end Nmea
