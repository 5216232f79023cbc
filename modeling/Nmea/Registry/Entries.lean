import Nmea.Text.Basic

/-!
# Entries in the order of their ids

A finite map from texts to values, kept as a list with ascending keys, so that the list of the
bound ids is the list of its keys.
-/

namespace Nmea

/-- Values under ids, in the order of the ids. -/
abbrev Entries (α : Type) := List (Text × α)

namespace Entries

variable {α : Type}

/-- The value under an id. -/
def find? (id : Text) : Entries α → Option α
  | []                => none
  | (key, value) :: t => if key = id then some value else find? id t

/-- The entries with a value under an id, in place of the one that was there. -/
def insert (id : Text) (value : α) : Entries α → Entries α
  | []              => [(id, value)]
  | (key, old) :: t =>
    if id < key then (id, value) :: (key, old) :: t
    else if key = id then (id, value) :: t
    else (key, old) :: insert id value t

/-- The entries without the one under an id. -/
def erase (id : Text) : Entries α → Entries α
  | []                => []
  | (key, value) :: t => if key = id then t else (key, value) :: erase id t

/-- The first id whose value passes a test. -/
def idOf? (test : α → Bool) : Entries α → Option Text
  | []                => none
  | (key, value) :: t => if test value then some key else idOf? test t

/-- The ids that have a value. -/
def ids (entries : Entries α) : List Text := entries.map Prod.fst

@[simp] theorem find?_nil (id : Text) : find? id ([] : Entries α) = none := rfl

theorem find?_insert_self (id : Text) (value : α) (entries : Entries α) :
    find? id (insert id value entries) = some value := by
  induction entries with
  | nil => simp [insert, find?]
  | cons entry t ih =>
    obtain ⟨key, old⟩ := entry
    simp only [insert]
    split
    · simp [find?]
    · split
      · simp [find?]
      · rename_i h
        simp [find?, h, ih]

theorem find?_insert_ne {id other : Text} (h : other ≠ id) (value : α) (entries : Entries α) :
    find? other (insert id value entries) = find? other entries := by
  induction entries with
  | nil => simp [insert, find?, h.symm]
  | cons entry t ih =>
    obtain ⟨key, old⟩ := entry
    simp only [insert]
    split
    · simp [find?, h.symm]
    · split
      · rename_i e
        subst e
        simp [find?, h.symm]
      · simp [find?, ih]

end Entries

end Nmea
