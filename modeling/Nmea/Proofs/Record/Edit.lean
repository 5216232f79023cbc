import Nmea.Proofs.Record.Writing
import Nmea.Record.Edit

/-!
# What edits keep

For each edit there is an equation that says what it answers and what it leaves behind, on success
and on failure. From these equations it follows that no edit makes a well-formed record ill formed,
not even one that fails half way (`Edit.Offered.keeps_wellFormed`).
-/

namespace Nmea.Edit

variable {α β : Type} {P : Record → Prop}

/-! ### Running edits -/

@[simp] theorem apply_pure (a : α) (r : Record) : (pure a : Edit α).apply r = (.ok a, r) := rfl

@[simp] theorem apply_throw (why : Error) (r : Record) :
    (throw why : Edit α).apply r = (.error why, r) := rfl

@[simp] theorem apply_get (r : Record) : (get : Edit Record).apply r = (.ok r, r) := rfl

@[simp] theorem apply_set (r s : Record) : (set s : Edit Unit).apply r = (.ok (), s) := rfl

@[simp] theorem apply_modify (f : Record → Record) (r : Record) :
    (modify f : Edit Unit).apply r = (.ok (), f r) := rfl

@[simp] theorem apply_check (x : Except Error α) (r : Record) : (check x).apply r = (x, r) := rfl

/-- What follows an edit is run on what the edit leaves behind, unless the edit fails. -/
theorem apply_bind (e : Edit α) (g : α → Edit β) (r : Record) : (e >>= g).apply r =
    match e.apply r with
    | (.ok a, s)      => (g a).apply s
    | (.error why, s) => (.error why, s) := by
  show ExceptT.bindCont g (e.apply r).1 (e.apply r).2 = _
  match e.apply r with
  | (.ok a, s) | (.error why, s) => rfl

theorem apply_bind_eq_ok_iff {e : Edit α} {g : α → Edit β} {r s : Record} {b : β} :
    (e >>= g).apply r = (.ok b, s) ↔
      ∃ a t, e.apply r = (.ok a, t) ∧ (g a).apply t = (.ok b, s) := by
  rw [apply_bind]
  match e.apply r with
  | (.ok a, t) => simp
  | (.error why, t) => simp

/-! ### What each edit does -/

/-- A field is written if the text can stand in one and the field is there. -/
theorem apply_setField (index : Nat) (text : Text) (r : Record) : (setField index text).apply r =
    if isFieldText text = true then
      if index < r.count then (.ok (), { r with fields := r.fields.set index text })
      else (.error (r.outOfRange index), r)
    else (.error (.invalidFieldValue index text), r) := by
  by_cases ht : isFieldText text = true
  · by_cases hi : index < r.count
    · simp [setField, apply_bind, checkFieldText, ht, hi]
    · simp [setField, apply_bind, checkFieldText, ht, hi]
  · simp [setField, apply_bind, checkFieldText, ht]

section SetField

variable {index : Nat} {text : Text} {r s : Record}

theorem apply_setField_eq_ok_iff : (setField index text).apply r = (.ok (), s) ↔
    isFieldText text = true ∧ index < r.count ∧
      s = { r with fields := r.fields.set index text } := by
  rw [apply_setField]
  split
  · next ht =>
    split
    · next hi => simp [ht, hi, eq_comm]
    · next hi => simp [hi]
  · next ht => simp [ht]

theorem exists_apply_setField_iff (hi : index < r.count) :
    (∃ s, (setField index text).apply r = (.ok (), s)) ↔ isFieldText text = true := by
  simp [apply_setField_eq_ok_iff, hi]

/-- A field that was written holds the text. -/
theorem getElem?_of_apply_setField (h : (setField index text).apply r = (.ok (), s)) :
    s.fields[index]? = some text := by
  obtain ⟨-, hi, rfl⟩ := apply_setField_eq_ok_iff.mp h
  exact List.getElem?_set_self hi

/-- To write what a field holds changes nothing. -/
theorem apply_setField_self (ht : isFieldText text = true) (hf : r.fields[index]? = some text) :
    (setField index text).apply r = (.ok (), r) := by
  obtain ⟨hi, rfl⟩ := List.getElem?_eq_some_iff.mp hf
  refine apply_setField_eq_ok_iff.mpr ⟨ht, hi, ?_⟩
  rw [List.set_getElem_self]

end SetField

theorem apply_setTalker (talker : Talker) (r : Record) : (setTalker talker).apply r =
    if isAddressPair talker r.id = true then (.ok (), { r with talker })
    else (.error (.invalidAddress (addressOf talker r.id)), r) := by
  by_cases h : isAddressPair talker r.id = true
  · simp [setTalker, apply_bind, h]
  · simp [setTalker, apply_bind, h]

/-- All fields from one on are replaced at once or, with the first error, none of them. -/
theorem apply_setValues (first : Nat) (values : List Text) (r : Record) :
    (setValues first values).apply r =
      if r.count < first then (.error (r.outOfRange first), r)
      else match checkValues first values with
        | .ok _      => (.ok (), { r with fields := nonempty (r.fields.take first ++ values) })
        | .error why => (.error why, r) := by
  by_cases h : r.count < first
  · simp [setValues, apply_bind, h]
  · cases hc : checkValues first values <;> simp [setValues, apply_bind, h, hc]

theorem checkFieldText_eq_ok_iff {index : Nat} {text : Text} :
    checkFieldText index text = .ok () ↔ isFieldText text = true := by
  rw [checkFieldText]
  split <;> simp [*]

theorem checkValues_eq_ok_iff {first : Nat} {values : List Text} :
    checkValues first values = .ok () ↔ ∀ text ∈ values, isFieldText text = true := by
  induction values generalizing first with
  | nil => simp [checkValues]
  | cons text values ih =>
    rw [checkValues, List.forall_mem_cons]
    by_cases h : isFieldText text = true
    · rw [checkFieldText_eq_ok_iff.mpr h]
      simp only [h, true_and]
      exact ih
    · simp [checkFieldText, h, bind, Except.bind]

/-- The first text that does not fit is reported, under the index it would have. -/
theorem exists_unfit_of_checkValues {first : Nat} {values : List Text} {why : Error}
    (h : checkValues first values = .error why) : ∃ before bad after,
      values = before ++ bad :: after ∧ (∀ text ∈ before, isFieldText text = true) ∧
        ¬ isFieldText bad = true ∧ why = .invalidFieldValue (first + before.length) bad := by
  induction values generalizing first with
  | nil => cases h
  | cons text values ih =>
    rw [checkValues] at h
    by_cases fits : isFieldText text = true
    · rw [checkFieldText_eq_ok_iff.mpr fits] at h
      obtain ⟨before, bad, after, rfl, fit, unfit, rfl⟩ := ih h
      refine ⟨text :: before, bad, after, rfl, ?_, unfit, ?_⟩
      · exact List.forall_mem_cons.mpr ⟨fits, fit⟩
      · rw [List.length_cons, Nat.add_assoc, Nat.add_comm 1]
    · rw [checkFieldText, if_neg fits] at h
      cases h
      exact ⟨[], text, values, rfl, nofun, fits, rfl⟩

/-! ### Properties that edits keep -/

/-- No record loses a property by an edit, not even by one that fails. -/
def Keeps (P : Record → Prop) (e : Edit α) : Prop := ∀ r, P r → P (e.apply r).2

theorem keeps_throw (why : Error) : Keeps P (throw why : Edit α) := fun _ h => h

theorem keeps_check (x : Except Error α) : Keeps P (check x) := fun _ h => h

/-- Two edits that keep a property keep it one after the other. -/
theorem Keeps.bind {e : Edit α} {g : α → Edit β} (he : Keeps P e) (hg : ∀ a, Keeps P (g a)) :
    Keeps P (e >>= g) := by
  intro r h
  have hs := he r h
  rw [apply_bind]
  match hx : e.apply r with
  | (.ok a, s) =>
    rw [hx] at hs
    exact hg a s hs
  | (.error why, s) =>
    rw [hx] at hs
    exact hs

section Fields

variable (h : ∀ index text, Keeps P (setField index text))

include h

/-- What writing a field keeps, the edits that write fields one after the other keep. -/
theorem keeps_setDouble (index : Nat) (value : Double) (leading decimals : Nat) :
    Keeps P (setDouble index value leading decimals) := by
  rw [setDouble]
  split
  · exact h index _
  · exact keeps_throw _

theorem keeps_setDegrees (index : Nat) (value : Double) : Keeps P (setDegrees index value) := by
  rw [setDegrees]
  split
  · exact keeps_setDouble h index value 3 1
  · exact keeps_throw _

theorem keeps_setCoordinate (axis : Record.Axis) (index hemisphere : Nat) (value : Double) :
    Keeps P (setCoordinate axis index hemisphere value) :=
  (keeps_check _).bind fun _ => (h index _).bind fun _ => h hemisphere _

end Fields

/-! ### The edits of a record -/

/-- The edits that a record has to offer. -/
inductive Offered : Edit Unit → Prop
  | setOpening (opening : Opening) : Offered (setOpening opening)
  | setTalker (talker : Talker) : Offered (setTalker talker)
  | setField (index : Nat) (text : Text) : Offered (setField index text)
  /-- Texts, characters, numbers, times, dates and the values of any further type. -/
  | setValue {α : Type} [FieldValue α] (index : Nat) (value : α) : Offered (setValue index value)
  | setInt (index : Nat) (value : Int32) (leading : Nat) : Offered (setInt index value leading)
  | setDouble (index : Nat) (value : Double) (leading decimals : Nat) :
      Offered (setDouble index value leading decimals)
  | setDegrees (index : Nat) (value : Double) : Offered (setDegrees index value)
  | setLatitude (index hemisphere : Nat) (value : Double) :
      Offered (setLatitude index hemisphere value)
  | setLongitude (index hemisphere : Nat) (value : Double) :
      Offered (setLongitude index hemisphere value)
  | setValues (first : Nat) (values : List Text) : Offered (setValues first values)
  | resize (count : Nat) : Offered (resize count)
  | reset : Offered reset

/-- What a record keeps by the edits that all others are made of, it keeps by every edit. -/
theorem Offered.keeps {e : Edit Unit} (h : Offered e)
    (opening : ∀ opening, Keeps P (Edit.setOpening opening))
    (talker : ∀ talker, Keeps P (Edit.setTalker talker))
    (field : ∀ index text, Keeps P (Edit.setField index text))
    (values : ∀ first values, Keeps P (Edit.setValues first values))
    (resize : ∀ count, Keeps P (Edit.resize count)) (reset : Keeps P Edit.reset) : Keeps P e := by
  cases h with
  | setOpening o => exact opening o
  | setTalker t => exact talker t
  | setField index text => exact field index text
  | setValue index value => exact field index _
  | setInt index value leading => exact field index _
  | setDouble index value leading decimals =>
    exact keeps_setDouble field index value leading decimals
  | setDegrees index value => exact keeps_setDegrees field index value
  | setLatitude index hemisphere value =>
    exact keeps_setCoordinate field .latitude index hemisphere value
  | setLongitude index hemisphere value =>
    exact keeps_setCoordinate field .longitude index hemisphere value
  | setValues first texts => exact values first texts
  | resize count => exact resize count
  | reset => exact reset

/-! ### Well-formed records -/

theorem keeps_wellFormed_setField (index : Nat) (text : Text) :
    Keeps Record.WellFormed (setField index text) := by
  intro r h
  rw [apply_setField]
  split
  · next ht =>
    split
    · refine ⟨h.isAddressPair_talker_id, ?_, ?_⟩
      · simpa using h.fields_ne_nil
      · intro field hm
        rcases List.mem_or_eq_of_mem_set hm with hm | rfl
        · exact h.isFieldText_of_mem field hm
        · exact ht
    · exact h
  · exact h

theorem keeps_wellFormed_setTalker (talker : Talker) :
    Keeps Record.WellFormed (setTalker talker) := by
  intro r h
  rw [apply_setTalker]
  split
  · next ha => exact ⟨ha, h.fields_ne_nil, h.isFieldText_of_mem⟩
  · exact h

theorem nonempty_ne_nil (fields : List Text) : nonempty fields ≠ [] := by
  cases fields <;> simp [nonempty]

/-- One field among none is empty. -/
theorem mem_nonempty {fields : List Text} {text : Text} (h : text ∈ nonempty fields) :
    text = [] ∨ text ∈ fields := by
  cases fields with
  | nil => exact .inl (List.mem_singleton.mp h)
  | cons field fields => exact .inr h

theorem keeps_wellFormed_setValues (first : Nat) (values : List Text) :
    Keeps Record.WellFormed (setValues first values) := by
  intro r h
  rw [apply_setValues]
  split
  · exact h
  · split
    · next hc =>
      refine ⟨h.isAddressPair_talker_id, nonempty_ne_nil _, ?_⟩
      intro field hm
      -- the field that is put where none is left, one that was there before, or a new one
      rcases mem_nonempty hm with rfl | hm
      · exact isFieldText_nil
      · rcases List.mem_append.mp hm with hm | hm
        · exact h.isFieldText_of_mem field (List.mem_of_mem_take hm)
        · exact checkValues_eq_ok_iff.mp hc field hm
    · exact h

theorem keeps_wellFormed_resize (count : Nat) : Keeps Record.WellFormed (resize count) := by
  intro r h
  rw [resize, apply_modify]
  refine ⟨h.isAddressPair_talker_id, ?_, ?_⟩
  · have := List.length_pos_iff.mpr h.fields_ne_nil
    refine List.ne_nil_of_length_pos ?_
    simp only [List.length_append, List.length_take, List.length_replicate, Record.count]
    omega
  · intro field hm
    rcases List.mem_append.mp hm with hm | hm
    · exact h.isFieldText_of_mem field (List.mem_of_mem_take hm)
    · rw [List.eq_of_mem_replicate hm]
      exact isFieldText_nil

theorem keeps_wellFormed_reset : Keeps Record.WellFormed reset := by
  intro r h
  rw [reset, apply_modify]
  refine ⟨h.isAddressPair_talker_id, by simpa using h.fields_ne_nil, ?_⟩
  intro field hm
  obtain ⟨-, -, rfl⟩ := List.mem_map.mp hm
  exact isFieldText_nil

/-- A well-formed record stays so whatever is done to it. -/
theorem Offered.keeps_wellFormed {e : Edit Unit} (h : Offered e) :
    Keeps Record.WellFormed e :=
  h.keeps (fun _ _ h => ⟨h.1, h.2, h.3⟩) keeps_wellFormed_setTalker keeps_wellFormed_setField
    keeps_wellFormed_setValues keeps_wellFormed_resize keeps_wellFormed_reset

/-! ### Sentence ids -/

/-- The id of a record is never edited. -/
theorem Offered.keeps_id {e : Edit Unit} (h : Offered e) (id : Text) :
    Keeps (fun r => r.id = id) e := by
  refine h.keeps (fun _ _ hr => hr) ?_ ?_ ?_ (fun _ _ hr => hr) fun _ hr => hr
  · intro talker r hr
    rw [apply_setTalker]
    split <;> exact hr
  · intro index text r hr
    rw [apply_setField]
    split
    · split <;> exact hr
    · exact hr
  · intro first values r hr
    rw [apply_setValues]
    split
    · exact hr
    · split <;> exact hr

end Nmea.Edit
