import Nmea.Proofs.Record.Reachable
import Nmea.Proofs.Registry.Dispatch

/-!
# Two ways to a sentence

A registry builds blank sentences for a talker without a look at the address, and sentences from
lines whose address it resolves. Where all kinds are built in or declared the two agree: whatever is
done to the record of a blank sentence, the registry reads its line as a sentence of the same kind
with the same record (`Registry.createFromText_toText_createForTalker`).
-/

namespace Nmea

variable {k : Kind}

/-! ### Kinds that are supplied -/

/-- The built-in kinds, and those that the items of a declaration describe. -/
inductive Kind.Supplied : Kind → Prop
  | builtin {k : Kind} (h : k ∈ Kind.builtins) : Supplied k
  | declared {name : Text} {items : List Declaration.Item} {k : Kind}
      (h : Declaration.kindOfItems name items = .ok k) : Supplied k

theorem Kind.Supplied.of_bound_builtin {made : Nat} {id : Text} {entry : Kind × Nat}
    (h : (Bindings.builtin made).bound id = some entry) : entry.1.Supplied :=
  .builtin (List.fst_mem_of_mem_zipIdx (Bindings.mem_of_bound_builtin h).1)

theorem Kind.isSentenceId_of_mem_builtins :
    ∀ k ∈ builtins, Declaration.isSentenceId k.id = true := by decide +kernel

/-- Every talker makes an address with the id of the kind. -/
theorem Kind.Supplied.isAddressPair (h : k.Supplied) (talker : Talker) :
    isAddressPair talker k.id = true := by
  refine Declaration.isAddressPair_of_isSentenceId ?_ talker
  cases h with
  | builtin h => exact isSentenceId_of_mem_builtins k h
  | declared h => exact Declaration.isSentenceId_of_kindOfItems h

namespace Registry

variable {v : Validator} {r : Registry} {b : Bindings} {id : Text}

/-! ### Registries of supplied kinds -/

/-- A change that registers no kind but a supplied one. -/
def Change.Supplies (c : Change) : Prop := ∀ k, c = .registerKind k → k.Supplied

/-- The registries that are reached from a new one by changes that register supplied kinds, with
the validator that was set last. -/
inductive Assembled : Validator → Registry → Prop
  | builtin : Assembled {} builtin
  | empty : Assembled {} empty
  | withValidator {v : Validator} {r : Registry} (h : Assembled v r) (w : Validator) :
      Assembled w (r.withValidator w)
  | change {v : Validator} {r : Registry} (h : Assembled v r) {c : Change} (hc : c.Supplies) :
      Assembled v (c.perform r)

/-- A change binds no kinds but those that were bound, built-in ones and one that it registers. -/
theorem Change.supplied_rebind {c : Change} (hc : c.Supplies)
    (hb : ∀ id entry, b.bound id = some entry → entry.1.Supplied) {entry : Kind × Nat}
    (h : (c.rebind b).bound id = some entry) : entry.1.Supplied := by
  cases c with
  | registerKind k =>
    rw [rebind, Bindings.bound_bind] at h
    split at h
    · cases h
      exact hc k rfl
    · exact hb id entry h
  | unregister c => exact hb id entry (Bindings.bound_unbindConstructor.mp h).1
  | unregisterId key => exact hb id entry (Bindings.bound_of_unbind h)
  | reset => exact .of_bound_builtin h

/-- What was assembled is reached, with bindings of supplied kinds. -/
theorem Assembled.exists_reached (h : Assembled v r) :
    ∃ b, Reached v r b ∧ ∀ id entry, b.bound id = some entry → entry.1.Supplied := by
  induction h with
  | builtin => exact ⟨_, .builtin, fun _ _ => .of_bound_builtin⟩
  | empty => exact ⟨_, .empty, nofun⟩
  | withValidator _ w ih =>
    obtain ⟨b, reached, supplied⟩ := ih
    exact ⟨b, reached.withValidator w, supplied⟩
  | change _ hc ih =>
    obtain ⟨b, reached, supplied⟩ := ih
    refine ⟨_, reached.change _, ?_⟩
    intro id entry h
    exact Change.supplied_rebind hc supplied h

/-! ### Blank sentences -/

/-- An id that is supported has a kind, and its blank sentences are those of the kind. -/
theorem Reached.createForTalker_of_supports (h : Reached v r b) (hid : r.supports id = true) :
    ∃ entry, b.bound id = some entry ∧
      ∀ talker, (r.createForTalker talker id).value = .ok (entry.1.forTalker talker).value := by
  rw [h.supports_eq, Bindings.kind?, Option.isSome_map] at hid
  obtain ⟨entry, bound⟩ := Option.isSome_iff_exists.mp hid
  have found : r.entries.find? id = some (Bindings.constructorOf entry) := by
    rw [h.heldBy.find?_eq, bound, Option.map_some]
  exact ⟨entry, bound, fun talker => createForTalker_of_find? found rfl talker⟩

/-- The line of a well-formed record is read as a sentence of the kind that its id is bound to. -/
theorem Reached.createFromText_toText (h : Reached v r b) {record : Record}
    (wf : record.WellFormed) (hb : b.kind? record.id = some k) {t : Option Terminator}
    (ht : v.lineEnding.allows t = true) :
    (r.createFromText (record.toText ++ Terminator.endText t)).value = .ok ⟨k, record⟩ := by
  have read := wf.parseWith_toText ht
  obtain ⟨s, parsed, -, created⟩ :=
    h.createFromText_of_valid (Record.exists_parseWith_iff.mp ⟨record, read⟩)
  cases Except.ok.inj (parsed.symm.trans (Record.parse_of_parseWith read))
  rw [created, hb]

/-! ### Agreement -/

/-- Each supported id has blank sentences for every talker. Whatever is done to the record of one,
with edits that fail among it, its line is read by the same registry as a sentence of the same kind
with the very same record, if the line ends as the validator wants it to. -/
theorem createFromText_toText_createForTalker (h : Assembled v r) (talker : Talker)
    (hid : r.supports id = true) :
    ∃ s, (r.createForTalker talker id).value = .ok s ∧ s.record.talker = talker ∧
      s.record.id = id ∧ ∀ record, s.record.EditedFrom record →
        ∀ t, v.lineEnding.allows t = true →
          (r.createFromText ((Sentence.mk s.kind record).toText ++ Terminator.endText t)).value =
            .ok ⟨s.kind, record⟩ := by
  obtain ⟨b, reached, supplied⟩ := h.exists_reached
  obtain ⟨⟨k, number⟩, bound, created⟩ := reached.createForTalker_of_supports hid
  obtain rfl : k.id = id := reached.heldBy.id_eq bound
  have layout := k.sameLayout_forTalker talker
  have wf := Kind.wellFormed_forTalker ((supplied _ _ bound).isAddressPair talker)
  refine ⟨_, created talker, layout.talker_eq, layout.id_eq, ?_⟩
  intro record edited t ht
  have id_eq : record.id = k.id := edited.id_eq.trans layout.id_eq
  have kind : b.kind? record.id = some k :=
    Bindings.kind?_eq_some_iff.mpr ⟨number, id_eq ▸ bound⟩
  exact reached.createFromText_toText (edited.wellFormed wf) kind ht

/-- A declared kind in place of a built-in one, a validator that wants a checksum and an end of the
line, and a blank sentence of the one-letter talker to which a latitude of which only the magnitude
could be written, another talker and another opening are given. -/
theorem createFromText_toText_createForTalker_replaced :
    let v : Validator := ⟨.required, .required⟩
    let items : List Declaration.Item :=
      [.setting .id (.text "GGA".toList), .setting .fields (.integer false 3 false),
        .setting .opening (.char '!'), .preset false 2 "M".toList]
    let k : Kind := ⟨"Brief".toList, "GGA".toList, 3, .encapsulation, [(2, "M".toList)]⟩
    let r := (Change.registerKind k).perform (builtin.withValidator v)
    let blank := (k.forTalker (.named .P)).value.record
    let first := ((Edit.setLatitude 0 3 (.ofNat 45)).apply blank).2
    let second := ((Edit.setTalker (.named .GP)).apply first).2
    let record := ((Edit.setOpening .standard).apply second).2
    Declaration.kindOfItems "Brief".toList items = .ok k ∧ Assembled v r ∧
      r.supports "GGA".toList = true ∧
      (r.createForTalker (.named .P) "GGA".toList).value = .ok ⟨k, blank⟩ ∧
      ((Edit.setLatitude 0 3 (.ofNat 45)).apply blank).1.isOk = false ∧
      record.toText = "$GPGGA,4500.000,,M*28".toList ∧
      (r.createFromText (record.toText ++ ['\n'])).value = .ok ⟨k, record⟩ := by
  intro v items k r blank first second record
  have declared : Declaration.kindOfItems "Brief".toList items = .ok k := by rfl
  have supplies : (Change.registerKind k).Supplies := by
    intro other e
    cases e
    exact .declared declared
  have assembled : Assembled v r := .change (.withValidator .builtin v) supplies
  have supported : r.supports "GGA".toList = true := by decide +kernel
  have edited : blank.EditedFrom record :=
    .edit (.edit (.edit .start (.setLatitude 0 3 (.ofNat 45))) (.setTalker (.named .GP)))
      (.setOpening .standard)
  have found : r.entries.find? "GGA".toList = some (.of (.own 50) k) :=
    Entries.find?_insert_self _ _ _
  have built : (r.createForTalker (.named .P) "GGA".toList).value = .ok ⟨k, blank⟩ :=
    createForTalker_of_find? found rfl (.named .P)
  obtain ⟨s, created, -, -, agrees⟩ :=
    createFromText_toText_createForTalker assembled (.named .P) supported
  cases Except.ok.inj (created.symm.trans built)
  refine ⟨declared, assembled, supported, built, by decide +kernel, by decide +kernel, ?_⟩
  exact agrees record edited (some .lf) rfl

end Registry

end Nmea
