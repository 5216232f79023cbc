import Nmea.Proofs.Outcome
import Nmea.Proofs.Record.Edit

/-!
# Values of fields

A field has a value if it is there, is not empty, and its whole text is a value of the type.
-/

namespace Nmea

variable {α : Type} [FieldValue α] {r : Record} {index : Nat} {text : Text} {a : α}

theorem FieldValue.readAll_eq_some_iff :
    FieldValue.readAll text = some a ↔ FieldValue.read text = some (a, []) := by
  unfold FieldValue.readAll
  split
  · next h => simp [h]
  · next h => simpa using h a

/-! ### Reading -/

namespace Record

theorem field_eq_ok_iff : r.field index = .ok text ↔ r.fields[index]? = some text := by
  rw [field]
  split <;> simp [*]

theorem value_eq_ok_iff : r.value index = .ok text ↔ r.fields[index]? = some text ∧ text ≠ [] := by
  simp only [value, bind_eq_ok_iff, field_eq_ok_iff]
  constructor
  · rintro ⟨found, hf, h⟩
    split at h
    · cases h
    · next hn =>
      cases h
      exact ⟨hf, fun e => hn (List.isEmpty_iff.mpr e)⟩
  · rintro ⟨hf, hn⟩
    exact ⟨text, hf, if_neg fun e => hn (List.isEmpty_iff.mp e)⟩

theorem get_eq_ok_iff : r.get α index = .ok a ↔
    ∃ text, r.fields[index]? = some text ∧ text ≠ [] ∧ FieldValue.readAll text = some a := by
  simp only [get, bind_eq_ok_iff, value_eq_ok_iff, and_assoc]
  refine exists_congr fun text => and_congr_right fun _ => and_congr_right fun _ => ?_
  split <;> simp [*]

/-- A text that is not a value is reported with its field and the type, and nothing else goes wrong
with a text. -/
theorem eq_fieldParse_of_get {why : Error} (hf : r.fields[index]? = some text) (hn : text ≠ [])
    (h : r.get α index = .error why) : why = .fieldParse index text (FieldValue.name α) := by
  rw [get, value_eq_ok_iff.mpr ⟨hf, hn⟩] at h
  simp only [bind, Except.bind] at h
  split at h <;> cases h
  rfl

end Record

/-! ### Writing -/

theorem Edit.apply_setValue (hf : r.fields[index]? = some text)
    (ht : isFieldText (FieldValue.write a) = true) : (setValue index a).apply r =
      (.ok (), { r with fields := r.fields.set index (FieldValue.write a) }) := by
  obtain ⟨hi, -⟩ := List.getElem?_eq_some_iff.mp hf
  rw [setValue, apply_setField, if_pos ht, Record.count, if_pos hi]

end Nmea
