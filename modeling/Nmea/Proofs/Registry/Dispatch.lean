import Nmea.Proofs.Kind.Sentence
import Nmea.Proofs.Registry.History

/-!
# Sentences from lines

A registry looks at a line three times: its validator has to call the line valid, the sentence id
is resolved, and the constructor of that id parses the line. The last two never fail on what the
validator has let pass, so that what is answered is told by the validator and by the kinds that the
history of the registry binds (`Registry.createFromText_dispatch`).
-/

namespace Nmea

variable {v : Validator} {raw id : Text} {r : Registry} {b : Bindings} {record : Record} {k : Kind}
  {tag : Tag}

/-! ### The constructor of a kind -/

theorem Constructor.fromText_of : (of tag k).fromText = some ⟨tag, k.parse⟩ := rfl

namespace Registry

theorem value_readWith {c : Constructor} {fromText : Tagged FromText}
    (hf : c.fromText = some fromText) (id raw : Text) :
    (readWith id raw c).value = (fromText.run raw).value := by
  simp only [readWith, hf, Logged.value_bind]
  cases (fromText.run raw).value <;> rfl

theorem value_readWith_of (h : (Record.parse raw).value = .ok record) (hid : record.id = k.id) :
    (readWith id raw (.of tag k)).value = .ok ⟨k, record⟩ := by
  rw [value_readWith Constructor.fromText_of]
  exact Kind.value_parse h hid

/-! ### The three looks at a line -/

theorem createFromText_of_not_valid (h : (r.validator.isValid raw).value = false) :
    (r.createFromText raw).value = .error (.malformedSentence raw) := by
  rw [createFromText, Logged.value_bind, h]
  rfl

/-- A valid line is read with the constructor of its id, if there is one. -/
theorem createFromText_of_valid (h : (r.validator.isValid raw).value = true)
    (hid : (sentenceIdOf raw).value = some id) : (r.createFromText raw).value =
      match r.entries.find? id with
      | some c => (readWith id raw c).value
      | none   => .error (.unsupportedSentence id) := by
  rw [createFromText, Logged.value_bind, h, if_pos rfl, Logged.value_bind, hid]
  dsimp only
  rw [Logged.value_bind, lookup]
  cases r.entries.find? id <;> rfl

/-- An id is supported exactly if a kind is bound to it. -/
theorem Reached.supports_eq (h : Reached v r b) (id : Text) :
    r.supports id = (b.kind? id).isSome := by
  rw [supports, h.heldBy.find?_eq, Bindings.kind?, Option.isSome_map, Option.isSome_map]

/-- The sentence of a valid line is its record, seen as one of the kind that is bound to its id. -/
theorem Reached.createFromText_of_valid (h : Reached v r b) (hv : (v.isValid raw).value = true) :
    ∃ record, (Record.parse raw).value = .ok record ∧
      (sentenceIdOf raw).value = some record.id ∧
      (r.createFromText raw).value =
        match b.kind? record.id with
        | some k => .ok ⟨k, record⟩
        | none   => .error (.unsupportedSentence record.id) := by
  obtain ⟨record, hr⟩ := Record.exists_parseWith_iff.mpr hv
  have hp := Record.parse_of_parseWith hr
  have hid := Record.sentenceIdOf_of_parseWith hr
  have create := Registry.createFromText_of_valid (h.validator_eq ▸ hv) hid
  rw [h.heldBy.find?_eq] at create
  refine ⟨record, hp, hid, ?_⟩
  rw [create, Bindings.kind?]
  cases bound : b.bound record.id with
  | none => rfl
  | some entry => exact value_readWith_of hp (h.heldBy.id_eq bound).symm

/-- What a registry answers to a line is told by its history: by the validator that was set last,
and by the kinds that are bound, which are those that have a constructor. The line is malformed
exactly if the validator turns it away. Otherwise its id is unsupported exactly if no kind is bound
to it, and the sentence is of a kind exactly if this kind is bound to the id; it holds the record of
the line. There are no other errors. -/
theorem createFromText_dispatch (h : Reached v r b) (raw : Text) :
    (∀ id, r.supports id = (b.kind? id).isSome) ∧
    ((r.createFromText raw).value = .error (.malformedSentence raw) ↔
      (v.isValid raw).value = false) ∧
    ((v.isValid raw).value = true → ∃ id record,
      (sentenceIdOf raw).value = some id ∧ (Record.parse raw).value = .ok record ∧
      ((r.createFromText raw).value = .error (.unsupportedSentence id) ↔ b.kind? id = none) ∧
      ∀ k, (r.createFromText raw).value = .ok ⟨k, record⟩ ↔ b.kind? id = some k) ∧
    ∀ why, (r.createFromText raw).value = .error why →
      why = .malformedSentence raw ∨
        ∃ id, (sentenceIdOf raw).value = some id ∧ why = .unsupportedSentence id := by
  refine ⟨h.supports_eq, ?_⟩
  cases hv : (v.isValid raw).value with
  | false =>
    have create : (r.createFromText raw).value = .error (.malformedSentence raw) :=
      createFromText_of_not_valid (h.validator_eq ▸ hv)
    refine ⟨⟨fun _ => rfl, fun _ => create⟩, nofun, ?_⟩
    intro why e
    rw [create] at e
    cases e
    exact .inl rfl
  | true =>
    obtain ⟨record, hp, hid, create⟩ := h.createFromText_of_valid hv
    rw [create]
    cases hb : b.kind? record.id with
    | none =>
      refine ⟨by simp, fun _ => ⟨record.id, record, hid, hp, by simp [hb], by simp [hb]⟩, ?_⟩
      intro why e
      cases e
      exact .inr ⟨record.id, hid, rfl⟩
    | some k =>
      refine ⟨by simp, fun _ => ⟨record.id, record, hid, hp, by simp [hb], by simp [hb]⟩, ?_⟩
      nofun

/-- A kind of three fields in place of a built-in one, a built-in kind taken out by its id and
another one by its constructor, and a validator that wants a checksum. -/
theorem createFromText_dispatch_replaced :
    let v : Validator := ⟨.required, .optional⟩
    let brief : Kind := { name := "Brief".toList, id := "GGA".toList, fieldCount := 3 }
    let zda : Constructor := .of (.own 49) .zda
    let b := ((Bindings.builtin 0).bind brief |>.unbind "RMC".toList).unbindConstructor zda
    let r := (Change.unregister zda).perform <| (Change.unregisterId "RMC".toList).perform <|
      (Change.registerKind brief).perform (builtin.withValidator v)
    Reached v r b ∧ r.supports "ZDA".toList = false ∧
      (r.createFromText "$GPGGA,1".toList).value =
        .error (.malformedSentence "$GPGGA,1".toList) ∧
      (r.createFromText "$GPRMC,,V*1D".toList).value =
        .error (.unsupportedSentence "RMC".toList) ∧
      ∃ record, (Record.parse "$GPGGA,1*4B\r".toList).value = .ok record ∧
        (r.createFromText "$GPGGA,1*4B\r".toList).value = .ok ⟨brief, record⟩ := by
  intro v brief zda b r
  have reached : Reached v r b := .change (.change (.change (.withValidator .builtin v)
    (.registerKind brief)) (.unregisterId _)) (.unregister zda)
  obtain ⟨supports, malformed, -, -⟩ := createFromText_dispatch reached "$GPGGA,1".toList
  refine ⟨reached, ?_, malformed.mpr (by decide +kernel), ?_, ?_⟩
  · rw [supports]
    decide +kernel
  · obtain ⟨id, record, hid, -, unsupported, -⟩ :=
      (createFromText_dispatch reached "$GPRMC,,V*1D".toList).2.2.1 (by decide +kernel)
    have e : (sentenceIdOf "$GPRMC,,V*1D".toList).value = some "RMC".toList := by decide +kernel
    cases Option.some.inj (hid.symm.trans e)
    exact unsupported.mpr (by decide +kernel)
  · obtain ⟨id, record, hid, parsed, -, created⟩ :=
      (createFromText_dispatch reached "$GPGGA,1*4B\r".toList).2.2.1 (by decide +kernel)
    have e : (sentenceIdOf "$GPGGA,1*4B\r".toList).value = some "GGA".toList := by decide +kernel
    cases Option.some.inj (hid.symm.trans e)
    exact ⟨record, parsed, (created brief).mpr (by decide +kernel)⟩

end Registry

end Nmea
