import Mathlib.Logic.Function.Basic
import Nmea.Proofs.Registry.Dispatch

/-!
# The registry as a plain map

To those who use it a registry is a plain map from sentence ids to constructors. What can be asked
of it is written down as requests, and what the map may answer to each of them as a relation.
One request to a registry is one step of the map with the same answer
(`Registry.Sound.step_perform`), and so every run of requests is a run of the map
(`Registry.run_answers_as_map`).
-/

namespace Nmea

/-! ### Requests -/

namespace Registry

/-- What can be asked of a registry. -/
inductive Request
  | register (id : Text) (c : Constructor)
  | registerKind (k : Kind)
  | unregister (c : Constructor)
  | unregisterId (id : Text)
  | reset
  | supports (id : Text)
  | ids

/-- What is answered to a request. -/
inductive Answer
  | registration (result : Except Error Unit)
  | unregistered (id : Option Text)
  | takenOut (c : Option Constructor)
  | done
  | supported (yes : Bool)
  | listed (ids : List Text)

/-- The answer of a registry to a request, and the registry after it. -/
def Request.perform (r : Registry) : Request → Answer × Registry
  | register id c   =>
    let (result, s) := (r.register id c).value
    (.registration result, s)
  | registerKind k  =>
    let (result, s) := (r.registerKind k).value
    (.registration result, s)
  | unregister c    =>
    let (id, s) := (r.unregister c).value
    (.unregistered id, s)
  | unregisterId id =>
    let (c, s) := (r.unregisterId id).value
    (.takenOut c, s)
  | reset           => (.done, r.reset.value)
  | supports id     => (.supported (r.supports id), r)
  | ids             => (.listed r.ids, r)

/-- The answers of a registry to requests one after the other, and the registry after them. -/
def run (r : Registry) : List Request → List Answer × Registry
  | []      => ([], r)
  | q :: qs =>
    let (answer, s) := q.perform r
    let (answers, t) := s.run qs
    (answer :: answers, t)

end Registry

open Registry (Request Answer)

/-! ### Plain maps -/

/-- The constructor that is bound to each sentence id, if there is one, and how many constructors
were made for kinds so far. -/
structure ConstructorMap where
  bound : Text → Option Constructor
  made : Nat

namespace ConstructorMap

def empty : ConstructorMap := ⟨fun _ => none, 0⟩

/-- Each built-in kind is bound to its own id by a constructor that is made for it. -/
def builtin (made : Nat) : ConstructorMap where
  bound id := ((Kind.builtins.zipIdx made).find? (·.1.id = id)).map fun (k, n) => .of (.own n) k
  made := made + Kind.builtins.length

def bind (m : ConstructorMap) (id : Text) (c : Constructor) : ConstructorMap :=
  { m with bound := Function.update m.bound id (some c) }

def unbind (m : ConstructorMap) (id : Text) : ConstructorMap :=
  { m with bound := Function.update m.bound id none }

/-- What a plain map may answer to a request, and the map after it. Of several ids that are bound
to one constructor, any may be the one that is unbound. -/
inductive Step (m : ConstructorMap) : Request → Answer → ConstructorMap → Prop
  | register {id : Text} {c : Constructor} (hf : c.fromText.isSome) (ht : c.forTalker.isSome) :
      Step m (.register id c) (.registration (.ok ())) (m.bind id c)
  | lacksFromText {id : Text} {c : Constructor} (hf : c.fromText = none) :
      Step m (.register id c) (.registration (.error (.registration id .fromText))) m
  | lacksForTalker {id : Text} {c : Constructor} (hf : c.fromText.isSome)
      (ht : c.forTalker = none) :
      Step m (.register id c) (.registration (.error (.registration id .forTalker))) m
  | registerKind {k : Kind} : Step m (.registerKind k) (.registration (.ok ()))
      ({ m with made := m.made + 1 }.bind k.id (.of (.own m.made) k))
  | unregister {id : Text} {c d : Constructor} (hb : m.bound id = some d)
      (hs : d.sameAs c = true) : Step m (.unregister c) (.unregistered (some id)) (m.unbind id)
  | notRegistered {c : Constructor} (h : ∀ id d, m.bound id = some d → d.sameAs c = false) :
      Step m (.unregister c) (.unregistered none) m
  | unregisterId {id : Text} :
      Step m (.unregisterId id) (.takenOut (m.bound id)) (m.unbind id)
  | reset : Step m .reset .done (builtin m.made)
  | supports {id : Text} : Step m (.supports id) (.supported (m.bound id).isSome) m
  | ids {ids : List Text} (ascending : ids.Pairwise (· < ·))
      (mem_iff : ∀ id, id ∈ ids ↔ (m.bound id).isSome = true) : Step m .ids (.listed ids) m

/-- What a plain map may answer to requests one after the other, and the map after them. -/
inductive Run : ConstructorMap → List Request → List Answer → ConstructorMap → Prop
  | nil {m : ConstructorMap} : Run m [] [] m
  | cons {m m' m'' : ConstructorMap} {q : Request} {qs : List Request} {answer : Answer}
      {answers : List Answer} (h : Step m q answer m') (hs : Run m' qs answers m'') :
      Run m (q :: qs) (answer :: answers) m''

end ConstructorMap

/-! ### The map of a registry -/

namespace Registry

variable {r : Registry} {id : Text} {c : Constructor}

/-- What a registry has under each id. -/
def toMap (r : Registry) : ConstructorMap := ⟨fun id => r.entries.find? id, r.made⟩

/-- The entries of a registry are in order, and each builds sentences in both ways. -/
structure Sound (r : Registry) : Prop where
  ascending : r.entries.Ascending
  complete : ∀ id c, r.entries.find? id = some c → c.fromText.isSome ∧ c.forTalker.isSome

theorem toMap_insert (r : Registry) (id : Text) (c : Constructor) :
    toMap { r with entries := r.entries.insert id c } = r.toMap.bind id c := by
  simp only [toMap, ConstructorMap.bind, ConstructorMap.mk.injEq, and_true]
  funext other
  rw [Entries.find?_insert, Function.update_apply]

theorem Sound.toMap_erase (h : r.Sound) (id : Text) :
    toMap { r with entries := r.entries.erase id } = r.toMap.unbind id := by
  simp only [toMap, ConstructorMap.unbind, ConstructorMap.mk.injEq, and_true]
  funext other
  rw [h.ascending.find?_erase, Function.update_apply]

theorem toMap_unbind_of_none (h : r.entries.find? id = none) : r.toMap.unbind id = r.toMap := by
  simp only [toMap, ConstructorMap.unbind, ConstructorMap.mk.injEq, and_true]
  rw [← h]
  exact Function.update_eq_self id _

theorem Sound.insert (h : r.Sound) (hf : c.fromText.isSome) (ht : c.forTalker.isSome) (made : Nat) :
    Sound { r with entries := r.entries.insert id c, made } where
  ascending := h.ascending.insert
  complete other d hd := by
    rw [Entries.find?_insert] at hd
    split at hd
    · cases hd
      exact ⟨hf, ht⟩
    · exact h.complete other d hd

theorem Sound.erase (h : r.Sound) (id : Text) :
    Sound { r with entries := r.entries.erase id } where
  ascending := h.ascending.erase
  complete other d hd := by
    rw [h.ascending.find?_erase] at hd
    split at hd
    · cases hd
    · exact h.complete other d hd

/-! ### The built-in kinds -/

theorem toMap_builtinEntries (r : Registry) (made : Nat) :
    toMap { r with entries := builtinEntries made, made := made + Kind.builtins.length } =
      .builtin made := by
  rw [toMap, ConstructorMap.builtin, ConstructorMap.mk.injEq]
  refine ⟨?_, rfl⟩
  funext id
  rw [find?_builtinEntries, Bindings.builtin]
  rfl

theorem complete_builtinEntries (made : Nat) (h : (builtinEntries made).find? id = some c) :
    c.fromText.isSome ∧ c.forTalker.isSome := by
  obtain ⟨tag, k, rfl⟩ := exists_of_find?_builtinEntries h
  exact ⟨rfl, rfl⟩

theorem ids_fill (made other : Nat) {entries entries' : Entries Constructor}
    (h : entries.ids = entries'.ids) (kinds : List Kind) :
    (fill made entries kinds).ids = (fill other entries' kinds).ids := by
  induction kinds generalizing made other entries entries' with
  | nil => exact h
  | cons k kinds ih => exact ih (made + 1) (other + 1) (Entries.ids_insert_congr h)

theorem ids_reset (r : Registry) : r.reset.value.ids = builtin.ids := by
  rw [value_reset]
  simp only [ids, builtin, builtinEntries]
  exact ids_fill r.made 0 rfl Kind.builtins

theorem sound_builtinEntries (r : Registry) (made : Nat) :
    Sound { r with entries := builtinEntries made, made := made + Kind.builtins.length } := by
  constructor
  · dsimp only
    exact ascending_builtinEntries made
  · dsimp only
    intro id c h
    exact complete_builtinEntries made h

/-! ### One request -/

/-- A constructor lacks the one capability, or only the other one, or none. -/
theorem missing?_cases (c : Constructor) :
    (c.fromText = none ∧ c.missing? = some .fromText) ∨
    (c.fromText.isSome ∧ c.forTalker = none ∧ c.missing? = some .forTalker) ∨
    (c.fromText.isSome ∧ c.forTalker.isSome ∧ c.missing? = none) := by
  obtain ⟨fromText, forTalker⟩ := c
  cases fromText <;> cases forTalker <;> simp [Constructor.missing?]

/-- What a registry answers to a request and what becomes of it is a step of its map. -/
theorem Sound.step_perform (h : r.Sound) (q : Request) :
    r.toMap.Step q (q.perform r).1 (q.perform r).2.toMap := by
  cases q with
  | register id c =>
    rw [Request.perform, value_register]
    rcases missing?_cases c with ⟨hf, missing⟩ | ⟨hf, ht, missing⟩ | ⟨hf, ht, missing⟩
    · rw [missing]
      exact .lacksFromText hf
    · rw [missing]
      exact .lacksForTalker hf ht
    · simp only [missing, toMap_insert]
      exact .register hf ht
  | registerKind k =>
    rw [Request.perform, value_registerKind]
    simp only [toMap_insert { r with made := r.made + 1 }]
    exact .registerKind
  | unregister c =>
    rw [Request.perform, value_unregister]
    cases hid : r.entries.idOf? (·.sameAs c) with
    | none => exact .notRegistered fun _ _ => Entries.eq_false_of_idOf?_eq_none hid
    | some id =>
      obtain ⟨d, found, same⟩ := h.ascending.find?_of_idOf? hid
      simp only [h.toMap_erase]
      exact .unregister found same
  | unregisterId id =>
    -- what is not there can be unbound just as well
    have step : r.toMap.Step (.unregisterId id) (.takenOut (r.entries.find? id))
      (r.toMap.unbind id) := .unregisterId
    rw [Request.perform, value_unregisterId]
    cases found : r.entries.find? id with
    | none =>
      rw [found, toMap_unbind_of_none found] at step
      exact step
    | some c =>
      rw [found] at step
      simpa only [h.toMap_erase] using step
  | reset =>
    rw [Request.perform, value_reset, toMap_builtinEntries]
    exact .reset
  | supports id => exact .supports
  | ids => exact .ids h.ascending fun id => Entries.mem_ids_iff

/-- What becomes of a registry by a request: nothing, a constructor with both capabilities more, an
id less, or new constructors of the built-in kinds. -/
theorem perform_cases (r : Registry) (q : Request) :
    (q.perform r).2 = r ∨
    (∃ id c made, c.fromText.isSome ∧ c.forTalker.isSome ∧
      (q.perform r).2 = { r with entries := r.entries.insert id c, made }) ∨
    (∃ id, (q.perform r).2 = { r with entries := r.entries.erase id }) ∨
    (q.perform r).2 = { r with
      entries := builtinEntries r.made, made := r.made + Kind.builtins.length } := by
  cases q with
  | register id c =>
    rw [Request.perform, value_register]
    rcases missing?_cases c with ⟨-, missing⟩ | ⟨-, -, missing⟩ | ⟨hf, ht, missing⟩ <;> rw [missing]
    · exact .inl rfl
    · exact .inl rfl
    · exact .inr (.inl ⟨id, c, r.made, hf, ht, rfl⟩)
  | registerKind k => exact .inr (.inl ⟨k.id, .of (.own r.made) k, r.made + 1, rfl, rfl, rfl⟩)
  | unregister c =>
    rw [Request.perform, value_unregister]
    cases r.entries.idOf? (·.sameAs c) with
    | none => exact .inl rfl
    | some id => exact .inr (.inr (.inl ⟨id, rfl⟩))
  | unregisterId id =>
    rw [Request.perform, value_unregisterId]
    cases r.entries.find? id with
    | none => exact .inl rfl
    | some c => exact .inr (.inr (.inl ⟨id, rfl⟩))
  | reset =>
    rw [Request.perform, value_reset]
    exact .inr (.inr (.inr rfl))
  | supports id => exact .inl rfl
  | ids => exact .inl rfl

theorem Sound.perform (h : r.Sound) (q : Request) : (q.perform r).2.Sound := by
  rcases perform_cases r q with e | ⟨id, c, made, hf, ht, e⟩ | ⟨id, e⟩ | e <;> rw [e]
  · exact h
  · exact h.insert hf ht made
  · exact h.erase id
  · exact sound_builtinEntries r r.made

theorem validator_perform (r : Registry) (q : Request) :
    (q.perform r).2.validator = r.validator := by
  rcases perform_cases r q with e | ⟨id, c, made, -, -, e⟩ | ⟨id, e⟩ | e <;> rw [e]

/-! ### Requests one after the other -/

theorem run_cons (r : Registry) (q : Request) (qs : List Request) : r.run (q :: qs) =
    ((q.perform r).1 :: ((q.perform r).2.run qs).1, ((q.perform r).2.run qs).2) := rfl

theorem Sound.run (h : r.Sound) (qs : List Request) : (r.run qs).2.Sound := by
  induction qs generalizing r with
  | nil => exact h
  | cons q qs ih => exact ih (h.perform q)

theorem Sound.run_toMap (h : r.Sound) (qs : List Request) :
    r.toMap.Run qs (r.run qs).1 (r.run qs).2.toMap := by
  induction qs generalizing r with
  | nil => exact .nil
  | cons q qs ih =>
    rw [run_cons]
    exact .cons (h.step_perform q) (ih (h.perform q))

theorem validator_run (r : Registry) (qs : List Request) :
    (r.run qs).2.validator = r.validator := by
  induction qs generalizing r with
  | nil => rfl
  | cons q qs ih => rw [run_cons, ih, validator_perform]

/-! ### Registries in use -/

/-- The registries that there are: a new one, one with another validator, and what a request leaves
behind. -/
inductive InUse : Registry → Prop
  | builtin : InUse builtin
  | empty : InUse empty
  | withValidator {r : Registry} (h : InUse r) (v : Validator) : InUse (r.withValidator v)
  | request {r : Registry} (h : InUse r) (q : Request) : InUse (q.perform r).2

theorem InUse.sound (h : r.InUse) : r.Sound := by
  induction h with
  | builtin => exact sound_builtinEntries { entries := [] } 0
  | empty => exact ⟨Entries.ascending_nil, nofun⟩
  | withValidator _ v ih => exact ⟨ih.ascending, ih.complete⟩
  | request _ q ih => exact ih.perform q

/-- A registry in use is a plain map. A new one is the map of the built-in kinds or the empty map,
and whatever is asked of a registry one after the other, it answers as its map may answer, and
becomes what the map becomes. Its validator stays, and putting the built-in kinds back gives the
ids of a new one. What it has under an id has both capabilities, so that the sentences of the id
are those that it builds, and no error for a missing capability is ever answered. -/
theorem run_answers_as_map (h : r.InUse) (requests : List Request) :
    (∀ v, (builtin.withValidator v).toMap = .builtin 0 ∧ (empty.withValidator v).toMap = .empty) ∧
    r.toMap.Run requests (r.run requests).1 (r.run requests).2.toMap ∧
    (r.run requests).2.validator = r.validator ∧
    (r.run requests).2.reset.value.ids = builtin.ids ∧
    ∀ id c, (r.run requests).2.entries.find? id = some c → ∃ fromText forTalker,
      c.fromText = some fromText ∧ c.forTalker = some forTalker ∧
      (∀ talker, ((r.run requests).2.createForTalker talker id).value =
        .ok (forTalker.run talker).value) ∧
      ∀ raw, (r.validator.isValid raw).value = true → (sentenceIdOf raw).value = some id →
        ((r.run requests).2.createFromText raw).value = (fromText.run raw).value := by
  have sound := h.sound
  have kept := validator_run r requests
  refine ⟨?_, sound.run_toMap requests, kept, ids_reset _, ?_⟩
  · intro v
    refine ⟨?_, rfl⟩
    exact toMap_builtinEntries { entries := [] } 0
  · intro id c found
    have complete := (sound.run requests).complete id c found
    obtain ⟨fromText, hf⟩ := Option.isSome_iff_exists.mp complete.1
    obtain ⟨forTalker, ht⟩ := Option.isSome_iff_exists.mp complete.2
    refine ⟨fromText, forTalker, hf, ht, createForTalker_of_find? found ht, ?_⟩
    intro raw valid hid
    rw [createFromText_of_valid (kept ▸ valid) hid, found]
    exact value_readWith hf id raw

/-- With a validator that wants lines to end, a constructor that is refused, and one that takes the
place of a built-in one, is taken out and is registered under an id of no kind. -/
theorem run_answers_as_map_overridden :
    let r := builtin.withValidator ⟨.optional, .required⟩
    let lacking := Constructor.withFromText {} (.given 0) Kind.gga
    let other := Constructor.of (.given 1) Kind.rmc
    let requests : List Request := [.register "GGA".toList lacking, .register "GGA".toList other,
      .unregister other, .register "XYZ".toList other]
    let answers : List Answer := [.registration (.error (.registration "GGA".toList .forTalker)),
      .registration (.ok ()), .unregistered (some "GGA".toList), .registration (.ok ())]
    let s : Registry := { r with
      entries := ((r.entries.insert "GGA".toList other).erase "GGA".toList).insert
        "XYZ".toList other }
    r.InUse ∧ r.run requests = (answers, s) ∧
      (ConstructorMap.builtin 0).Run requests answers s.toMap ∧
      s.reset.value.ids = builtin.ids ∧
      (s.createForTalker (.named .GP) "XYZ".toList).value =
        .ok (Kind.rmc.forTalker (.named .GP)).value ∧
      (s.createFromText "$GPXYZ,1\n".toList).value = (Kind.rmc.parse "$GPXYZ,1\n".toList).value := by
  intro r lacking other requests answers s
  have inUse : r.InUse := .withValidator .builtin _
  have ran : r.run requests = (answers, s) := by
    simp only [requests, run, Request.perform, value_register, value_unregister]
    rfl
  obtain ⟨new, run, -, reset, built⟩ := run_answers_as_map inUse requests
  rw [ran] at run reset built
  rw [(new _).1] at run
  obtain ⟨fromText, forTalker, hf, ht, blank, read⟩ :=
    built "XYZ".toList other (Entries.find?_insert_self _ _ _)
  cases hf
  cases ht
  exact ⟨inUse, ran, run, reset, blank _, read _ (by decide +kernel) (by decide +kernel)⟩

end Registry

end Nmea
