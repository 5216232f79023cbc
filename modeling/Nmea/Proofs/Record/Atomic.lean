import Nmea.Proofs.Record.Edit

/-!
# Edits that happen as a whole or not at all

The edit of one field leaves the record alone if it fails, and so do the edits that check all they
need before they change anything. A row of such edits is not of this sort: if it fails, the edits
before the one that failed have happened, and nothing else has (`exists_of_apply_inOrder`). Which
fields an edit leaves alone is said by `Record.SameBut`.
-/

namespace Nmea

/-- A record with empty fields behind its own up to a least number of them. -/
def Record.filledUp (count : Nat) (r : Record) : Record :=
  { r with fields := r.fields ++ List.replicate (count - r.count) [] }

@[simp] theorem Record.filledUp_zero (r : Record) : r.filledUp 0 = r := by
  simp [filledUp]

namespace Edit

variable {α : Type} {r s : Record} {why : Error} {steps : List (Edit Unit)}

/-- A failing edit leaves the record as it was. -/
def Atomic (e : Edit α) : Prop := ∀ r why s, e.apply r = (.error why, s) → s = r

/-! ### Atomic edits -/

@[simp] theorem atomic_throw (why : Error) : Atomic (throw why : Edit α) := by
  intro r _ s h
  cases h
  rfl

@[simp] theorem atomic_check (x : Except Error α) : Atomic (check x) := by
  intro r _ s h
  cases h
  rfl

@[simp] theorem atomic_setField (index : Nat) (text : Text) : Atomic (setField index text) := by
  intro r why s h
  rw [apply_setField] at h
  split at h
  · split at h <;> cases h
    rfl
  · cases h
    rfl

@[simp] theorem atomic_setValue {α : Type} [FieldValue α] (index : Nat) (value : α) :
    Atomic (setValue index value) :=
  atomic_setField index _

@[simp] theorem atomic_setDouble (index : Nat) (value : Double) (leading decimals : Nat) :
    Atomic (setDouble index value leading decimals) := by
  rw [setDouble]
  split
  · exact atomic_setField index _
  · exact atomic_throw _

/-- All values are looked at before the first of them is written. -/
@[simp] theorem atomic_setValues (first : Nat) (values : List Text) :
    Atomic (setValues first values) := by
  intro r why s h
  rw [apply_setValues] at h
  split at h
  · cases h
    rfl
  · split at h <;> cases h
    rfl

/-- Adds empty fields up to a least number of them. -/
def fillUp (count : Nat) : Edit Unit := do
  let r ← get
  if r.count < count then resize count

theorem apply_fillUp (count : Nat) (r : Record) :
    (fillUp count).apply r = (.ok (), r.filledUp count) := by
  rw [fillUp, apply_bind, apply_get, Record.filledUp]
  by_cases h : r.count < count
  · have most : max count 1 = count := by omega
    have all : r.fields.take count = r.fields := List.take_of_length_le (Nat.le_of_lt h)
    simp [h, resize, most, all]
  · simp [h, Nat.sub_eq_zero_of_le (Nat.not_lt.mp h)]

@[simp] theorem atomic_fillUp (count : Nat) : Atomic (fillUp count) := by
  intro r why s h
  rw [apply_fillUp] at h
  cases h

/-! ### Edits in a row -/

/-- One edit after the other, up to the first that fails. -/
def inOrder : List (Edit Unit) → Edit Unit
  | []         => pure ()
  | e :: steps => do
    e
    inOrder steps

theorem inOrder_append (steps rest : List (Edit Unit)) :
    inOrder (steps ++ rest) = (do inOrder steps; inOrder rest) := by
  induction steps with
  | nil => simp [inOrder]
  | cons e steps ih => simp [inOrder, ih]

theorem keeps_inOrder {P : Record → Prop} (h : ∀ e ∈ steps, Keeps P e) :
    Keeps P (inOrder steps) := by
  induction steps with
  | nil => exact fun _ h => h
  | cons e steps ih =>
    rw [List.forall_mem_cons] at h
    exact h.1.bind fun _ => ih h.2

/-- A row of atomic edits that fails leaves behind what the edits before the failing one made. -/
theorem exists_of_apply_inOrder (atomic : ∀ e ∈ steps, Atomic e)
    (h : (inOrder steps).apply r = (.error why, s)) :
    ∃ before step after, steps = before ++ step :: after ∧
      (inOrder before).apply r = (.ok (), s) ∧ step.apply s = (.error why, s) := by
  induction steps generalizing r with
  | nil => cases h
  | cons e steps ih =>
    rw [List.forall_mem_cons] at atomic
    rw [inOrder, apply_bind] at h
    match he : e.apply r with
    | (.ok (), t) =>
      rw [he] at h
      obtain ⟨before, step, after, rfl, hb, hs⟩ := ih atomic.2 h
      refine ⟨e :: before, step, after, rfl, ?_, hs⟩
      rw [inOrder, apply_bind, he]
      exact hb
    | (.error _, t) =>
      rw [he] at h
      cases h
      obtain rfl := atomic.1 _ _ _ he
      exact ⟨[], e, steps, rfl, rfl, he⟩

end Edit

/-! ### Frames of edits -/

/-- Nothing is different but the texts of some fields. -/
structure Record.SameBut (indices : List Nat) (r s : Record) : Prop where
  opening_eq : s.opening = r.opening
  talker_eq : s.talker = r.talker
  id_eq : s.id = r.id
  count_eq : s.count = r.count
  field_eq : ∀ index ∉ indices, s.fields[index]? = r.fields[index]?

theorem Record.SameBut.refl (indices : List Nat) (r : Record) : r.SameBut indices r :=
  ⟨rfl, rfl, rfl, rfl, fun _ _ => rfl⟩

namespace Edit

variable {indices : List Nat} {index : Nat} (r : Record)

theorem keeps_sameBut_setField (h : index ∈ indices) (text : Text) :
    Keeps (r.SameBut indices) (setField index text) := by
  intro s same
  rw [apply_setField]
  split
  · split
    · refine ⟨same.opening_eq, same.talker_eq, same.id_eq, List.length_set.trans same.count_eq, ?_⟩
      intro other outside
      have ne : index ≠ other := fun e => outside (e ▸ h)
      rw [List.getElem?_set_ne ne, same.field_eq other outside]
    · exact same
  · exact same

theorem keeps_sameBut_setDouble (h : index ∈ indices) (value : Double) (leading decimals : Nat) :
    Keeps (r.SameBut indices) (setDouble index value leading decimals) := by
  rw [setDouble]
  split
  · exact keeps_sameBut_setField r h _
  · exact keeps_throw _

end Edit

end Nmea
