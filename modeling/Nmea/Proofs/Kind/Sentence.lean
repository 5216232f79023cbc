import Nmea.Kind.Basic
import Nmea.Proofs.Record.Edit

/-!
# Sentences of a kind

A blank sentence is well formed if the talker and the id of the kind make an address, and filling
in fields changes neither what opens it nor its address nor the number of its fields
(`Kind.sameLayout_forTalker`). A sentence is read from a line with the id of the kind.
-/

namespace Nmea

/-! ### Records that differ in their fields -/

/-- Nothing but the texts in the fields is different. -/
structure Record.SameLayout (r s : Record) : Prop where
  opening_eq : s.opening = r.opening
  talker_eq : s.talker = r.talker
  id_eq : s.id = r.id
  count_eq : s.count = r.count

theorem Record.SameLayout.refl (r : Record) : r.SameLayout r := ⟨rfl, rfl, rfl, rfl⟩

theorem Edit.keeps_sameLayout_setField (r : Record) (index : Nat) (text : Text) :
    Keeps r.SameLayout (setField index text) := by
  intro s h
  rw [apply_setField]
  split
  · split
    · exact ⟨h.opening_eq, h.talker_eq, h.id_eq, List.length_set.trans h.count_eq⟩
    · exact h
  · exact h

theorem Record.wellFormed_blank {talker : Talker} {id : Text} (h : isAddressPair talker id = true)
    (opening : Opening) (count : Nat) : (blank opening talker id count).WellFormed where
  isAddressPair_talker_id := h
  fields_ne_nil := List.ne_nil_of_length_pos (by simp only [blank, List.length_replicate]; omega)
  isFieldText_of_mem field hm := by
    rw [List.eq_of_mem_replicate hm]
    exact isFieldText_nil

namespace Kind

variable {k : Kind} {talker : Talker} {r : Record}

/-! ### Blank sentences -/

/-- A preset is written like any field, and left out if it cannot be. -/
theorem value_preset (k : Kind) (r : Record) (index : Nat) (text : Text) :
    (k.preset r index text).value = ((Edit.setField index text).apply r).2 := by
  rw [preset]
  split
  · next h => rw [h]; rfl
  · next h => rw [h]; rfl

/-- What writing a field keeps, filling in fields keeps. -/
theorem fillIn_of_keeps {P : Record → Prop} {presets : List (Nat × Text)}
    (keeps : ∀ index text, Edit.Keeps P (Edit.setField index text)) (h : P r) :
    P (k.fillIn r presets).value := by
  induction presets generalizing r with
  | nil => exact h
  | cons preset presets ih =>
    refine ih ?_
    rw [value_preset]
    exact keeps _ _ r h

theorem wellFormed_forTalker (h : isAddressPair talker k.id = true) :
    (k.forTalker talker).value.record.WellFormed :=
  fillIn_of_keeps Edit.keeps_wellFormed_setField
    (Record.wellFormed_blank h k.opening k.fieldCount)

theorem sameLayout_forTalker (k : Kind) (talker : Talker) :
    (Record.blank k.opening talker k.id k.fieldCount).SameLayout
      (k.forTalker talker).value.record :=
  fillIn_of_keeps (Edit.keeps_sameLayout_setField _) (.refl _)

theorem count_forTalker (k : Kind) (talker : Talker) :
    (k.forTalker talker).value.record.count = max k.fieldCount 1 := by
  rw [(k.sameLayout_forTalker talker).count_eq]
  exact List.length_replicate

/-! ### Presets that can be written -/

/-- The text of the last preset for a field, empty if there is none. -/
def presetText (presets : List (Nat × Text)) (index : Nat) : Text :=
  ((presets.filter (·.1 = index)).getLast?.map Prod.snd).getD []

/-- Of several texts that are written into a field the last one stays. -/
theorem getElem?_foldl_set {presets : List (Nat × Text)} {fields : List Text}
    (h : ∀ preset ∈ presets, preset.1 < fields.length) (index : Nat) :
    (presets.foldl (fun fields preset => fields.set preset.1 preset.2) fields)[index]? =
      ((presets.filter (·.1 = index)).getLast?.map Prod.snd).or fields[index]? := by
  induction presets generalizing fields with
  | nil => simp
  | cons preset presets ih =>
    rw [List.forall_mem_cons] at h
    rw [List.foldl_cons, ih (by simpa using h.2), List.filter_cons]
    by_cases e : preset.1 = index
    · subst e
      simp only [decide_true, if_true, List.getLast?_cons, List.getElem?_set_self h.1]
      cases (presets.filter (·.1 = preset.1)).getLast? <;> simp
    · simp [e, List.getElem?_set_ne e]

theorem preset_eq_pure {index : Nat} {text : Text} (hi : index < r.count)
    (ht : isFieldText text = true) (k : Kind) :
    k.preset r index text = pure { r with fields := r.fields.set index text } := by
  rw [preset, Edit.apply_setField, if_pos ht, if_pos hi]

/-- Nothing is left out where every text fits into its field. -/
theorem fillIn_eq_pure {presets : List (Nat × Text)}
    (h : ∀ preset ∈ presets, preset.1 < r.count ∧ isFieldText preset.2 = true) (k : Kind) :
    k.fillIn r presets = pure { r with
      fields := presets.foldl (fun fields preset => fields.set preset.1 preset.2) r.fields } := by
  induction presets generalizing r with
  | nil => rfl
  | cons preset presets ih =>
    rw [List.forall_mem_cons] at h
    rw [fillIn, preset_eq_pure h.1.1 h.1.2]
    refine ih ?_
    simpa [Record.count] using h.2

theorem lt_count_blank {index : Nat} (hi : index < k.fieldCount) :
    index < (Record.blank k.opening talker k.id k.fieldCount).count := by
  rw [Record.count, Record.blank, List.length_replicate]
  exact Nat.lt_of_lt_of_le hi (Nat.le_max_left _ _)

section Presets

variable (h : ∀ preset ∈ k.presets, preset.1 < k.fieldCount ∧ isFieldText preset.2 = true)

include h

theorem forTalker_eq_pure (talker : Talker) : k.forTalker talker =
    let blank := Record.blank k.opening talker k.id k.fieldCount
    pure ⟨k, { blank with
      fields := k.presets.foldl (fun fields preset => fields.set preset.1 preset.2)
        blank.fields }⟩ := by
  rw [forTalker, fillIn_eq_pure fun preset hp => ⟨lt_count_blank (h preset hp).1, (h preset hp).2⟩]
  rfl

/-- Each field of a blank sentence holds the last preset for it. -/
theorem field_forTalker (talker : Talker) {index : Nat} (hi : index < k.fieldCount) :
    (k.forTalker talker).value.record.fields[index]? = some (presetText k.presets index) := by
  have empty : (Record.blank k.opening talker k.id k.fieldCount).fields[index]? = some [] := by
    rw [Record.blank, List.getElem?_replicate, if_pos (by omega)]
  rw [forTalker_eq_pure h, Logged.value_pure, presetText,
    getElem?_foldl_set fun preset hp => lt_count_blank (h preset hp).1, empty]
  cases (k.presets.filter (·.1 = index)).getLast? <;> rfl

end Presets

/-! ### Sentences of lines -/

variable {raw : Text}

/-- A kind takes the record of a line that has its id and refuses any other. -/
theorem value_parse_eq_ite (h : (Record.parse raw).value = .ok r) :
    (k.parse raw).value = if r.id = k.id then .ok ⟨k, r⟩
      else .error (.sentenceIdMismatch k.id r.id) := by
  simp only [parse, parseWith, Record.parseExpecting, Logged.value_bind, Logged.value_pure]
  rw [← Record.parse, h]
  simp only [Except.bind, Record.expecting]
  split <;> rfl

theorem value_parse (h : (Record.parse raw).value = .ok r) (hid : r.id = k.id) :
    (k.parse raw).value = .ok ⟨k, r⟩ := by
  rw [value_parse_eq_ite h, if_pos hid]

/-- A sentence is read again from its line, whatever ends the line. -/
theorem value_parse_toText (h : r.WellFormed) (hid : r.id = k.id) (t : Option Terminator) :
    (k.parse ((Sentence.mk k r).toText ++ Terminator.endText t)).value = .ok ⟨k, r⟩ :=
  value_parse (h.parseWith_toText rfl) hid

end Kind

end Nmea
