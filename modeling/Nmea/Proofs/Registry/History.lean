import Mathlib.Logic.Function.Basic
import Nmea.Proofs.Registry.Entries
import Nmea.Registry.Basic

/-!
# Histories of a registry

What a registry has under a sentence id is told by its history alone: the kind that was registered
last, or the built-in one, unless it was taken out since. `Registry.Reached` writes a history down
together with what it binds, which it tells without a look at the registry, and
`Registry.Reached.heldBy` says that the registry has the constructors of just these kinds.
-/

namespace Nmea

/-! ### Bindings -/

/-- The kind that is bound to each sentence id, if there is one, with the number of the constructor
that was made for it, and how many constructors were made so far. -/
@[ext]
structure Bindings where
  bound : Text → Option (Kind × Nat)
  made : Nat

namespace Bindings

/-- The constructor that was made for a kind. -/
def constructorOf : Kind × Nat → Constructor
  | (k, number) => .of (.own number) k

/-- The kind that is bound to an id. -/
def kind? (b : Bindings) (id : Text) : Option Kind := (b.bound id).map Prod.fst

def empty : Bindings := ⟨fun _ => none, 0⟩

/-- Each built-in kind is bound to its own id, and a constructor is made for each. -/
def builtin (made : Nat) : Bindings where
  bound id := (Kind.builtins.zipIdx made).find? (·.1.id = id)
  made := made + Kind.builtins.length

/-- Binds a kind to its own id, in place of what was bound to it. -/
def bind (b : Bindings) (k : Kind) : Bindings where
  bound := Function.update b.bound k.id (some (k, b.made))
  made := b.made + 1

def unbind (b : Bindings) (id : Text) : Bindings :=
  { b with bound := Function.update b.bound id none }

/-- Whether a constructor holds the functions that were made with a number. -/
def isMadeWith (number : Nat) (c : Constructor) : Bool :=
  c.fromText.map Tagged.tag = some (.own number) && c.forTalker.map Tagged.tag = some (.own number)

/-- Unbinds the kind that a constructor was made for. -/
def unbindConstructor (b : Bindings) (c : Constructor) : Bindings :=
  { b with bound := fun id => (b.bound id).filter fun (_, number) => !isMadeWith number c }

variable {b : Bindings} {r : Registry} {id other : Text} {k : Kind} {c : Constructor} {number : Nat}
  {entry : Kind × Nat}

theorem mem_of_bound_builtin {made : Nat} (h : (builtin made).bound id = some entry) :
    entry ∈ Kind.builtins.zipIdx made ∧ entry.1.id = id := by
  have found : (Kind.builtins.zipIdx made).find? (·.1.id = id) = some entry := h
  have passes := List.find?_some found
  exact ⟨List.mem_of_find?_eq_some found, of_decide_eq_true passes⟩

theorem bound_bind (b : Bindings) (k : Kind) (id : Text) :
    (b.bind k).bound id = if id = k.id then some (k, b.made) else b.bound id :=
  Function.update_apply b.bound k.id _ id

theorem bound_unbind (b : Bindings) (id other : Text) :
    (b.unbind id).bound other = if other = id then none else b.bound other :=
  Function.update_apply b.bound id none other

theorem bound_of_unbind (h : (b.unbind id).bound other = some entry) :
    b.bound other = some entry := by
  rw [bound_unbind] at h
  split at h
  · cases h
  · exact h

theorem bound_unbindConstructor : (b.unbindConstructor c).bound id = some entry ↔
    b.bound id = some entry ∧ isMadeWith entry.2 c = false := by
  rw [unbindConstructor, Option.filter_eq_some_iff, Bool.not_eq_true']

theorem kind?_eq_some_iff : b.kind? id = some k ↔ ∃ number, b.bound id = some (k, number) := by
  simp [kind?]

/-! ### Numbers of their own -/

/-- Each kind is bound to its own id, with a number that no other id has. -/
structure Proper (b : Bindings) : Prop where
  id_eq : ∀ {id k number}, b.bound id = some (k, number) → k.id = id
  fresh : ∀ {id k number}, b.bound id = some (k, number) → number < b.made
  unique : ∀ {id other k l number}, b.bound id = some (k, number) →
    b.bound other = some (l, number) → id = other

theorem proper_empty : Proper empty := ⟨nofun, nofun, nofun⟩

theorem proper_builtin (made : Nat) : Proper (builtin made) where
  id_eq found := (mem_of_bound_builtin found).2
  fresh found := List.snd_lt_add_of_mem_zipIdx (mem_of_bound_builtin found).1
  unique {id other k l number} found found' := by
    -- the number is the place of the kind in the table
    obtain ⟨mem, e⟩ := mem_of_bound_builtin found
    obtain ⟨mem', e'⟩ := mem_of_bound_builtin found'
    have same : k = l := (List.fst_eq_of_mem_zipIdx mem).trans (List.fst_eq_of_mem_zipIdx mem').symm
    rw [← e, ← e', same]

theorem Proper.bind (h : b.Proper) (k : Kind) : (b.bind k).Proper where
  id_eq {id l number} found := by
    rw [bound_bind] at found
    split at found
    · next e =>
      cases found
      exact e.symm
    · exact h.id_eq found
  fresh {id l number} found := by
    rw [bound_bind] at found
    split at found
    · cases found
      exact Nat.lt_succ_self b.made
    · exact Nat.lt_succ_of_lt (h.fresh found)
  unique {id other l m number} found found' := by
    rw [bound_bind] at found found'
    split at found <;> split at found'
    · next e e' => exact e.trans e'.symm
    · cases found
      exact absurd (h.fresh found') (Nat.lt_irrefl b.made)
    · cases found'
      exact absurd (h.fresh found) (Nat.lt_irrefl b.made)
    · exact h.unique found found'

theorem Proper.unbind (h : b.Proper) (id : Text) : (b.unbind id).Proper where
  id_eq found := h.id_eq (bound_of_unbind found)
  fresh found := h.fresh (bound_of_unbind found)
  unique found found' := h.unique (bound_of_unbind found) (bound_of_unbind found')

theorem sameAs_constructorOf (entry : Kind × Nat) (c : Constructor) :
    (constructorOf entry).sameAs c = isMadeWith entry.2 c := by
  rw [Bool.eq_iff_iff]
  simp only [Constructor.sameAs, isMadeWith, Bool.and_eq_true, decide_eq_true_eq]
  exact and_congr eq_comm eq_comm

theorem eq_of_isMadeWith {number' : Nat} (h : isMadeWith number c = true)
    (h' : isMadeWith number' c = true) : number = number' := by
  simp only [isMadeWith, Bool.and_eq_true, decide_eq_true_eq] at h h'
  have tags : some (Tag.own number) = some (Tag.own number') := h.1.symm.trans h'.1
  cases tags
  rfl

/-- Nothing is unbound by a constructor that nothing bound has. -/
theorem unbindConstructor_eq_self
    (h : ∀ id entry, b.bound id = some entry → isMadeWith entry.2 c = false) :
    b.unbindConstructor c = b := by
  ext id entry
  · rw [bound_unbindConstructor]
    exact ⟨And.left, fun found => ⟨found, h id entry found⟩⟩
  · rfl

/-- No more than one id is unbound by a constructor. -/
theorem Proper.unbindConstructor_eq (h : b.Proper) (found : b.bound id = some (k, number))
    (made : isMadeWith number c = true) : b.unbindConstructor c = b.unbind id := by
  ext other ⟨l, number'⟩
  · rw [bound_unbindConstructor, bound_unbind]
    split
    · next e =>
      subst e
      constructor
      · rintro ⟨found', notMade⟩
        cases found.symm.trans found'
        rw [made] at notMade
        cases notMade
      · nofun
    · next ne =>
      refine ⟨And.left, fun found' => ⟨found', ?_⟩⟩
      refine Bool.eq_false_iff.mpr fun made' => ne ?_
      obtain rfl : number' = number := eq_of_isMadeWith made' made
      exact h.unique found' found
  · rfl

/-! ### What is held -/

/-- A registry has the constructors of the kinds that are bound, and no others. -/
structure HeldBy (b : Bindings) (r : Registry) : Prop extends Proper b where
  ascending : r.entries.Ascending
  find?_eq : ∀ id, r.entries.find? id = (b.bound id).map constructorOf
  made_eq : r.made = b.made

theorem heldBy_empty : empty.HeldBy .empty where
  toProper := proper_empty
  ascending := Entries.ascending_nil
  find?_eq _ := rfl
  made_eq := rfl

theorem HeldBy.bind (h : b.HeldBy r) (k : Kind) : (b.bind k).HeldBy { r with
    entries := r.entries.insert k.id (.of (.own r.made) k), made := r.made + 1 } where
  toProper := h.toProper.bind k
  ascending := h.ascending.insert
  find?_eq id := by
    rw [Entries.find?_insert, bound_bind]
    split
    · rw [h.made_eq]
      rfl
    · exact h.find?_eq id
  made_eq := congrArg (· + 1) h.made_eq

theorem HeldBy.unbind (h : b.HeldBy r) (id : Text) :
    (b.unbind id).HeldBy { r with entries := r.entries.erase id } where
  toProper := h.toProper.unbind id
  ascending := h.ascending.erase
  find?_eq other := by
    rw [h.ascending.find?_erase, bound_unbind]
    split
    · rfl
    · exact h.find?_eq other
  made_eq := h.made_eq

/-- Nothing is unbound under an id that has no constructor. -/
theorem HeldBy.unbind_eq_self (h : b.HeldBy r) (none : r.entries.find? id = none) :
    b.unbind id = b := by
  rw [h.find?_eq, Option.map_eq_none_iff] at none
  rw [Bindings.unbind, ← none, Function.update_eq_self]

/-- The id that is answered for a constructor is the one that is unbound. -/
theorem HeldBy.unbindConstructor_eq (h : b.HeldBy r) (c : Constructor) : b.unbindConstructor c =
    match r.entries.idOf? (·.sameAs c) with
    | none    => b
    | some id => b.unbind id := by
  cases hid : r.entries.idOf? (·.sameAs c) with
  | none =>
    refine unbindConstructor_eq_self ?_
    intro id entry found
    have held : r.entries.find? id = some (constructorOf entry) := by
      rw [h.find?_eq, found, Option.map_some]
    have different := Entries.eq_false_of_idOf?_eq_none hid held
    rwa [← sameAs_constructorOf]
  | some id =>
    obtain ⟨d, held, same⟩ := h.ascending.find?_of_idOf? hid
    rw [h.find?_eq] at held
    obtain ⟨⟨k, number⟩, found, rfl⟩ := Option.map_eq_some_iff.mp held
    have made : isMadeWith number c = true := (sameAs_constructorOf (k, number) c).symm.trans same
    exact h.toProper.unbindConstructor_eq found made

end Bindings

/-! ### The built-in kinds -/

theorem Kind.nodup_id_builtins : (builtins.map Kind.id).Nodup := by decide +kernel

namespace Registry

variable {r : Registry} {b : Bindings} {v : Validator}

theorem ascending_fill (made : Nat) {entries : Entries Constructor} (h : entries.Ascending)
    (kinds : List Kind) : (fill made entries kinds).Ascending := by
  induction kinds generalizing made entries with
  | nil => exact h
  | cons k kinds ih => exact ih (made + 1) h.insert

/-- Of kinds with different ids each is found under its own, with the constructor made for it. -/
theorem find?_fill (made : Nat) (entries : Entries Constructor) {kinds : List Kind}
    (h : (kinds.map Kind.id).Nodup) (id : Text) : (fill made entries kinds).find? id =
      (((kinds.zipIdx made).find? (·.1.id = id)).map Bindings.constructorOf).or
        (entries.find? id) := by
  induction kinds generalizing made entries with
  | nil => rfl
  | cons k kinds ih =>
    -- the kinds behind the first are put on top of it, but none of them has its id
    rw [List.map_cons, List.nodup_cons] at h
    rw [fill, ih _ _ h.2, List.zipIdx_cons, List.find?_cons, Entries.find?_insert]
    by_cases e : k.id = id
    · have none : (kinds.zipIdx (made + 1)).find? (·.1.id = id) = none := by
        rw [List.find?_eq_none]
        intro entry mem same
        have ids : entry.1.id = k.id := (of_decide_eq_true same).trans e.symm
        exact h.1 (List.mem_map.mpr ⟨entry.1, List.fst_mem_of_mem_zipIdx mem, ids⟩)
      simp [e, none, Bindings.constructorOf]
    · simp [e, Ne.symm e]

theorem ascending_builtinEntries (made : Nat) : (builtinEntries made).Ascending :=
  ascending_fill made Entries.ascending_nil Kind.builtins

theorem find?_builtinEntries (made : Nat) (id : Text) : (builtinEntries made).find? id =
    ((Bindings.builtin made).bound id).map Bindings.constructorOf := by
  rw [builtinEntries, find?_fill made [] Kind.nodup_id_builtins, Entries.find?_nil, Option.or_none,
    Bindings.builtin]

/-- Whatever a registry had before, with the built-in entries it holds the built-in kinds. -/
theorem heldBy_builtinEntries (r : Registry) (made : Nat) : (Bindings.builtin made).HeldBy { r with
    entries := builtinEntries made, made := made + Kind.builtins.length } where
  toProper := Bindings.proper_builtin made
  ascending := by
    dsimp only
    exact ascending_builtinEntries made
  find?_eq id := by
    dsimp only
    exact find?_builtinEntries made id
  made_eq := rfl

theorem exists_of_find?_builtinEntries {made : Nat} {id : Text} {c : Constructor}
    (h : (builtinEntries made).find? id = some c) : ∃ tag k, c = .of tag k := by
  rw [find?_builtinEntries] at h
  obtain ⟨⟨k, number⟩, -, rfl⟩ := Option.map_eq_some_iff.mp h
  exact ⟨.own number, k, rfl⟩

/-! ### What each operation does -/

/-- A constructor is registered unless it lacks a capability; the first that it lacks is named. -/
theorem value_register (r : Registry) (id : Text) (c : Constructor) : (r.register id c).value =
    match c.missing? with
    | some missing => (.error (.registration id missing), r)
    | none         => (.ok (), { r with entries := r.entries.insert id c }) := by
  rw [register]
  cases c.missing? <;> rfl

theorem value_registerKind (r : Registry) (k : Kind) : (r.registerKind k).value =
    (.ok (), { r with
      entries := r.entries.insert k.id (.of (.own r.made) k), made := r.made + 1 }) := rfl

theorem value_unregister (r : Registry) (c : Constructor) : (r.unregister c).value =
    match r.entries.idOf? (·.sameAs c) with
    | none    => (none, r)
    | some id => (some id, { r with entries := r.entries.erase id }) := by
  rw [unregister]
  cases r.entries.idOf? (·.sameAs c) <;> rfl

theorem value_unregisterId (r : Registry) (id : Text) : (r.unregisterId id).value =
    match r.entries.find? id with
    | none   => (none, r)
    | some c => (some c, { r with entries := r.entries.erase id }) := by
  rw [unregisterId]
  cases r.entries.find? id <;> rfl

theorem value_reset (r : Registry) : r.reset.value = { r with
    entries := builtinEntries r.made, made := r.made + Kind.builtins.length } := by
  simp only [reset, Logged.value_bind, Logged.value_pure]

theorem createForTalker_of_find? {id : Text} {c : Constructor} {forTalker : Tagged ForTalker}
    (hc : r.entries.find? id = some c) (ht : c.forTalker = some forTalker) (talker : Talker) :
    (r.createForTalker talker id).value = .ok (forTalker.run talker).value := by
  simp only [createForTalker, lookup, hc, Logged.value_bind, Logged.value_pure, ht]

/-! ### Changes -/

/-- The changes of a registry that go by kinds. -/
inductive Change
  | registerKind (k : Kind)
  | unregister (c : Constructor)
  | unregisterId (id : Text)
  | reset

namespace Change

/-- The registry after a change. -/
def perform (r : Registry) : Change → Registry
  | registerKind k  => (r.registerKind k).value.2
  | unregister c    => (r.unregister c).value.2
  | unregisterId id => (r.unregisterId id).value.2
  | reset           => r.reset.value

/-- The bindings after a change. -/
def rebind (b : Bindings) : Change → Bindings
  | registerKind k  => b.bind k
  | unregister c    => b.unbindConstructor c
  | unregisterId id => b.unbind id
  | reset           => .builtin b.made

/-- A change leaves the validator as it is. -/
theorem validator_perform (r : Registry) (c : Change) : (c.perform r).validator = r.validator := by
  cases c with
  | registerKind k => rw [perform, value_registerKind]
  | unregister c =>
    rw [perform, value_unregister]
    split <;> rfl
  | unregisterId id =>
    rw [perform, value_unregisterId]
    split <;> rfl
  | reset => rw [perform, value_reset]

/-- What becomes of the registry by a change becomes of the bindings too. -/
theorem heldBy_perform (h : b.HeldBy r) (c : Change) : (c.rebind b).HeldBy (c.perform r) := by
  cases c with
  | registerKind k => exact h.bind k
  | unregister c =>
    rw [perform, rebind, value_unregister, h.unbindConstructor_eq]
    cases r.entries.idOf? (·.sameAs c) with
    | none => exact h
    | some id => exact h.unbind id
  | unregisterId id =>
    rw [perform, rebind, value_unregisterId]
    cases hf : r.entries.find? id with
    | none =>
      rw [h.unbind_eq_self hf]
      exact h
    | some c => exact h.unbind id
  | reset =>
    rw [perform, rebind, value_reset, ← h.made_eq]
    exact heldBy_builtinEntries r r.made

end Change

/-! ### Histories -/

/-- The registries that are reached from a new one by changes, with the validator that was set last
and what is bound. -/
inductive Reached : Validator → Registry → Bindings → Prop
  | builtin : Reached {} builtin (.builtin 0)
  | empty : Reached {} empty .empty
  | withValidator {v : Validator} {r : Registry} {b : Bindings} (h : Reached v r b)
      (w : Validator) : Reached w (r.withValidator w) b
  | change {v : Validator} {r : Registry} {b : Bindings} (h : Reached v r b) (c : Change) :
      Reached v (c.perform r) (c.rebind b)

theorem Reached.validator_eq (h : Reached v r b) : r.validator = v := by
  induction h with
  | builtin => rfl
  | empty => rfl
  | withValidator _ w _ => rfl
  | change _ c ih => rw [Change.validator_perform, ih]

theorem Reached.heldBy (h : Reached v r b) : b.HeldBy r := by
  induction h with
  | builtin => exact heldBy_builtinEntries Registry.empty 0
  | empty => exact Bindings.heldBy_empty
  | withValidator _ w ih => exact ⟨ih.toProper, ih.ascending, ih.find?_eq, ih.made_eq⟩
  | change _ c ih => exact Change.heldBy_perform ih c

end Registry

end Nmea
