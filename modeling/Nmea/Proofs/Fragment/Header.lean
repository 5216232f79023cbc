import Nmea.Fragment
import Nmea.Proofs.Field.Integer
import Nmea.Proofs.Record.Edit

/-!
# The fields of a fragment

Writing a fragment fills the first six fields and leaves the others alone. A record with these six
fields in front gives back the payload and the fill bits that were written, and the header if its
index is one from one to its count; a message id or a channel without any text comes back as none.
-/

namespace Nmea

variable {r : Record} {header : FragmentHeader} {payload : Text} {fillBits : UInt8}

/-! ### Writing -/

/-- The texts of the fields of a fragment. -/
def fragmentFields (header : FragmentHeader) (payload : Text) (fillBits : UInt8) : List Text :=
  [FieldValue.write header.count, FieldValue.write header.index, header.messageId.getD [],
    header.channel.getD [], payload, FieldValue.write fillBits]

/-- A text that is left out can stand in a field, as an empty one. -/
theorem isFieldText_getD_iff {o : Option Text} :
    isFieldText (o.getD []) = true ↔ ∀ t ∈ o, isFieldText t = true := by
  cases o <;> simp

namespace Edit

theorem apply_setFragment (count : 6 ≤ r.count)
    (messageId : isFieldText (header.messageId.getD []) = true)
    (channel : isFieldText (header.channel.getD []) = true) (chunk : isFieldText payload = true) :
    (setFragment header payload fillBits).apply r =
      (.ok (), { r with fields := fragmentFields header payload fillBits ++ r.fields.drop 6 }) := by
  obtain ⟨opening, talker, id, fields⟩ := r
  match fields, count with
  | a :: b :: c :: d :: e :: f :: rest, _ =>
    simp [setFragment, apply_bind, setValue, apply_setField, FixedWidth.isFieldText_write,
      messageId, channel, chunk, Record.count, fragmentFields]

/-- A fragment is written if each of its texts can stand in a field. -/
theorem apply_setFragment_eq_ok_iff {s : Record} (count : 6 ≤ r.count) :
    (setFragment header payload fillBits).apply r = (.ok (), s) ↔
      isFieldText (header.messageId.getD []) = true ∧
      isFieldText (header.channel.getD []) = true ∧ isFieldText payload = true ∧
        s = { r with fields := fragmentFields header payload fillBits ++ r.fields.drop 6 } := by
  constructor
  · intro h
    obtain ⟨_, _, -, rest⟩ := apply_bind_eq_ok_iff.mp h
    obtain ⟨_, _, -, rest⟩ := apply_bind_eq_ok_iff.mp rest
    obtain ⟨_, _, third, rest⟩ := apply_bind_eq_ok_iff.mp rest
    obtain ⟨_, _, fourth, rest⟩ := apply_bind_eq_ok_iff.mp rest
    obtain ⟨_, _, fifth, -⟩ := apply_bind_eq_ok_iff.mp rest
    obtain ⟨messageId, -⟩ := apply_setField_eq_ok_iff.mp third
    obtain ⟨channel, -⟩ := apply_setField_eq_ok_iff.mp fourth
    obtain ⟨chunk, -⟩ := apply_setField_eq_ok_iff.mp fifth
    rw [apply_setFragment count messageId channel chunk] at h
    exact ⟨messageId, channel, chunk, (Prod.ext_iff.mp h).2.symm⟩
  · rintro ⟨messageId, channel, chunk, rfl⟩
    exact apply_setFragment count messageId channel chunk

/-- What writing a field keeps, writing a fragment keeps. -/
theorem keeps_setFragment {P : Record → Prop} (h : ∀ index text, Keeps P (setField index text)) :
    Keeps P (setFragment header payload fillBits) :=
  (h 0 _).bind fun _ => (h 1 _).bind fun _ => (h 2 _).bind fun _ => (h 3 _).bind fun _ =>
    (h 4 _).bind fun _ => h 5 _

end Edit

/-! ### Reading -/

/-- A header in which a message id or a channel without any text is none. -/
def FragmentHeader.normalized (header : FragmentHeader) : FragmentHeader :=
  { header with
    messageId := header.messageId.filter (!·.isEmpty)
    channel := header.channel.filter (!·.isEmpty) }

theorem FragmentHeader.normalized_eq_self (messageId : ∀ t ∈ header.messageId, t ≠ [])
    (channel : ∀ t ∈ header.channel, t ≠ []) : header.normalized = header := by
  have filled {o : Option Text} (h : ∀ t ∈ o, t ≠ []) : o.filter (!·.isEmpty) = o := by
    cases o with
    | none => rfl
    | some t => simp [h t rfl]
  rw [normalized, filled messageId, filled channel]

namespace Record

theorem get_of_field {α : Type} [FixedWidth α] [FixedWidth.Lawful α] {index : Nat} {word : α}
    (h : r.field index = .ok (FieldValue.write word)) : r.get α index = .ok word := by
  have some_text : (FieldValue.write word).isEmpty = false :=
    List.isEmpty_eq_false_iff.mpr (FixedWidth.write_ne_nil word)
  simp [get, value, h, some_text, FixedWidth.readAll_write, bind, Except.bind]

theorem optionalField_of_field {index : Nat} {text : Option Text}
    (h : r.field index = .ok (text.getD [])) :
    r.optionalField index = .ok (text.filter (!·.isEmpty)) := by
  rw [optionalField, h]
  match text with
  | none | some [] | some (_ :: _) => rfl

/-- The fields of a fragment stand in front of any others. -/
def Carries (r : Record) (header : FragmentHeader) (payload : Text) (fillBits : UInt8) : Prop :=
  fragmentFields header payload fillBits <+: r.fields

namespace Carries

theorem field (h : r.Carries header payload fillBits) {index : Nat} {text : Text}
    (ht : (fragmentFields header payload fillBits)[index]? = some text) :
    r.field index = .ok text := by
  obtain ⟨rest, h⟩ := h
  have inFront : index < (fragmentFields header payload fillBits).length :=
    (List.getElem?_eq_some_iff.mp ht).1
  rw [Record.field, ← h, List.getElem?_append_left inFront, ht]

theorem payload_eq (h : r.Carries header payload fillBits) : r.payload = .ok payload := h.field rfl

theorem fillBits_eq (h : r.Carries header payload fillBits) : r.fillBits = .ok fillBits :=
  get_of_field (h.field rfl)

/-- The header is read if its index is one of those from one to its count. -/
theorem fragmentHeader_eq_ite (h : r.Carries header payload fillBits) : r.fragmentHeader =
    if header.index ≠ 0 ∧ header.index ≤ header.count then .ok header.normalized
    else .error (.invalidFieldValue 1
      (FieldValue.write header.index ++ " of ".toList ++ FieldValue.write header.count)) := by
  have count : r.get UInt8 0 = .ok header.count := get_of_field (h.field rfl)
  have index : r.get UInt8 1 = .ok header.index := get_of_field (h.field rfl)
  rw [Record.fragmentHeader, count, index]
  by_cases inside : header.index ≠ 0 ∧ header.index ≤ header.count
  · have messageId : r.optionalField 2 = .ok header.normalized.messageId :=
      optionalField_of_field (h.field rfl)
    have channel : r.optionalField 3 = .ok header.normalized.channel :=
      optionalField_of_field (h.field rfl)
    obtain ⟨first, last⟩ := inside
    have some_count : header.count ≠ 0 := fun e => first (UInt8.le_zero_iff.mp (e ▸ last))
    have not_past : ¬ header.count < header.index := UInt8.not_lt.mpr last
    simp [messageId, channel, first, last, some_count, not_past, bind, Except.bind, pure,
      Except.pure, FragmentHeader.normalized]
  · -- a count of zero needs no case of its own, for no index is within it
    have refused : (decide (header.count = 0) || decide (header.index = 0) ||
        decide (header.count < header.index)) = true := by
      simp only [Bool.or_eq_true, decide_eq_true_eq]
      by_cases first : header.index = 0
      · exact .inl (.inr first)
      · exact .inr (UInt8.not_le.mp fun last => inside ⟨first, last⟩)
    rw [if_neg inside]
    exact if_pos refused

theorem fragmentHeader_eq (h : r.Carries header payload fillBits) (first : header.index ≠ 0)
    (last : header.index ≤ header.count) : r.fragmentHeader = .ok header.normalized := by
  rw [h.fragmentHeader_eq_ite, if_pos ⟨first, last⟩]

end Carries

end Record

end Nmea
