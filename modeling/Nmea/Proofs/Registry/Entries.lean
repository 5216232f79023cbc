import Nmea.Registry.Entries

/-!
# Entries as a finite map

Entries whose ids ascend have each id at most once. Inserting and erasing keep them so, and then
each of the two changes what is found under one id and nothing else.
-/

namespace Nmea.Entries

variable {α : Type} {entries : Entries α} {id other : Text} {value : α}

/-- The ids ascend. -/
def Ascending (entries : Entries α) : Prop := entries.ids.Pairwise (· < ·)

theorem ascending_nil : Ascending ([] : Entries α) := List.Pairwise.nil

theorem ascending_cons {entry : Text × α} :
    Ascending (entry :: entries) ↔ (∀ id ∈ entries.ids, entry.1 < id) ∧ Ascending entries :=
  List.pairwise_cons

/-! ### Ids and what is found under them -/

theorem find?_eq_none_iff : find? id entries = none ↔ id ∉ entries.ids := by
  induction entries with
  | nil => simp [ids]
  | cons entry t ih =>
    obtain ⟨key, old⟩ := entry
    by_cases h : key = id
    · simp [find?, ids, h]
    · simp only [find?, h, if_false, ih, ids, List.map_cons, List.mem_cons, not_or]
      exact ⟨fun hm => ⟨Ne.symm h, hm⟩, And.right⟩

theorem mem_ids_iff : id ∈ entries.ids ↔ (find? id entries).isSome = true := by
  rw [← Option.ne_none_iff_isSome, ne_eq, find?_eq_none_iff, Classical.not_not]

theorem mem_ids_insert (h : other ∈ (insert id value entries).ids) :
    other = id ∨ other ∈ entries.ids := by
  induction entries with
  | nil => exact .inl (List.mem_singleton.mp h)
  | cons entry t ih =>
    obtain ⟨key, old⟩ := entry
    simp only [insert] at h
    split at h
    · exact List.mem_cons.mp h
    · split at h
      · rcases List.mem_cons.mp h with h | h
        · exact .inl h
        · exact .inr (List.mem_cons_of_mem key h)
      · rcases List.mem_cons.mp h with rfl | h
        · exact .inr List.mem_cons_self
        · exact (ih h).imp_right (List.mem_cons_of_mem key)

/-- Where an id is put is told by the ids. -/
theorem ids_insert_congr {entries' : Entries α} {value' : α} (h : entries.ids = entries'.ids) :
    (insert id value entries).ids = (insert id value' entries').ids := by
  induction entries generalizing entries' with
  | nil =>
    cases entries' with
    | nil => rfl
    | cons entry' t' => cases h
  | cons entry t ih =>
    cases entries' with
    | nil => cases h
    | cons entry' t' =>
      obtain ⟨key, old⟩ := entry
      obtain ⟨key', old'⟩ := entry'
      obtain ⟨rfl, ht⟩ := List.cons.inj h
      simp only [insert]
      split
      · exact congrArg (id :: key :: ·) ht
      · split
        · exact congrArg (id :: ·) ht
        · exact congrArg (key :: ·) (ih ht)

theorem erase_sublist (id : Text) (entries : Entries α) : (erase id entries).Sublist entries := by
  induction entries with
  | nil => exact .slnil
  | cons entry t ih =>
    obtain ⟨key, old⟩ := entry
    rw [erase]
    split
    · exact List.sublist_cons_self _ _
    · exact ih.cons_cons _

/-! ### Ascending ids -/

theorem Ascending.insert (h : Ascending entries) : Ascending (entries.insert id value) := by
  induction entries with
  | nil => exact List.pairwise_singleton _ _
  | cons entry t ih =>
    obtain ⟨key, old⟩ := entry
    have ht := ascending_cons.mp h
    rw [Entries.insert]
    split
    · next before =>
      refine ascending_cons.mpr ⟨?_, h⟩
      intro other hm
      rcases List.mem_cons.mp hm with rfl | hm
      · exact before
      · exact List.lt_trans before (ht.1 other hm)
    · next notBefore =>
      split
      · next e =>
        subst e
        exact ascending_cons.mpr ht
      · next ne =>
        refine ascending_cons.mpr ⟨?_, ih ht.2⟩
        intro other hm
        rcases mem_ids_insert hm with rfl | hm
        · refine Classical.byContradiction fun notBehind => ne ?_
          exact List.le_antisymm (List.not_lt.mp notBefore) (List.not_lt.mp notBehind)
        · exact ht.1 other hm

theorem Ascending.erase (h : Ascending entries) : Ascending (entries.erase id) :=
  h.sublist ((erase_sublist id entries).map Prod.fst)

/-! ### What is found after a change -/

theorem find?_insert (id other : Text) (value : α) (entries : Entries α) :
    find? other (insert id value entries) =
      if other = id then some value else find? other entries := by
  split
  · next e => rw [e, find?_insert_self]
  · next ne => rw [find?_insert_ne ne]

/-- An id is gone when it is erased, since it does not come twice. -/
theorem Ascending.find?_erase (h : Ascending entries) (id other : Text) :
    find? other (entries.erase id) = if other = id then none else find? other entries := by
  induction entries with
  | nil => simp [Entries.erase]
  | cons entry t ih =>
    obtain ⟨key, old⟩ := entry
    obtain ⟨least, ht⟩ := ascending_cons.mp h
    rw [Entries.erase]
    split
    · next e =>
      subst e
      split
      · next e =>
        subst e
        exact find?_eq_none_iff.mpr fun hm => List.lt_irrefl other (least other hm)
      · next ne => rw [find?, if_neg (Ne.symm ne)]
    · next ne =>
      rw [find?, ih ht, find?]
      split
      · next e =>
        subst e
        rw [if_neg ne]
      · rfl

/-! ### Ids of values -/

variable {test : α → Bool}

theorem eq_false_of_idOf?_eq_none (h : idOf? test entries = none)
    (hf : find? id entries = some value) : test value = false := by
  induction entries with
  | nil => cases hf
  | cons entry t ih =>
    obtain ⟨key, old⟩ := entry
    by_cases ht : test old = true
    · simp [idOf?, ht] at h
    · by_cases e : key = id
      · obtain rfl : old = value := by simpa [find?, e] using hf
        simpa using ht
      · exact ih (by simpa [idOf?, ht] using h) (by simpa [find?, e] using hf)

/-- The id that is answered is the one that the value is found under, since it does not come
earlier with another value. -/
theorem Ascending.find?_of_idOf? (h : Ascending entries) (hid : idOf? test entries = some id) :
    ∃ value, find? id entries = some value ∧ test value = true := by
  induction entries with
  | nil => cases hid
  | cons entry t ih =>
    obtain ⟨key, old⟩ := entry
    obtain ⟨least, ht⟩ := ascending_cons.mp h
    by_cases passes : test old = true
    · obtain rfl : key = id := by simpa [idOf?, passes] using hid
      exact ⟨old, by simp [find?], passes⟩
    · obtain ⟨value, hf, hv⟩ := ih ht (by simpa [idOf?, passes] using hid)
      have behind : key < id := least id (mem_ids_iff.mpr (by simp [hf]))
      have ne : key ≠ id := fun e => List.lt_irrefl id (e ▸ behind)
      exact ⟨value, by simp [find?, ne, hf], hv⟩

end Nmea.Entries
