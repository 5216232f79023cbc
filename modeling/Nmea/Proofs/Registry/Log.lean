import Nmea.Proofs.Registry.Refinement

/-!
# What is logged about lines

A registry looks at a line up to three times, and every look of a validator may be logged. But what
the validator of the registry lets pass, the later looks let pass too, and they are silent about it.
So a line that is turned away is logged once, at the level that its error tells, and a sentence that
is created is not logged at all (`Registry.levels_logged`).
-/

namespace Nmea

variable {α β : Type} {v : Validator} {raw id : Text} {r : Registry} {k : Kind} {tag : Tag}

/-! ### Levels -/

namespace Logged

/-- How much each of the events on the way to a value matters. -/
def levels (x : Logged α) : List Level := x.events.map Event.level

@[simp] theorem levels_pure (a : α) : (pure a : Logged α).levels = [] := rfl

@[simp] theorem levels_bind (x : Logged α) (g : α → Logged β) :
    (x >>= g).levels = x.levels ++ (g x.value).levels := List.map_append

theorem events_eq_nil_iff {x : Logged α} : x.events = [] ↔ x.levels = [] :=
  List.map_eq_nil_iff.symm

end Logged

/-! ### Validators -/

theorem Validator.levels_report (v : Validator) (raw : Text) (x : Except Rejection Frame) :
    (v.report raw x).levels = if x.toOption.isSome then [] else [.trace] := by
  cases x <;> rfl

theorem Validator.levels_isSentence (v : Validator) (raw : Text) :
    (v.isSentence raw).levels = if (v.isSentence raw).value then [] else [.trace] := by
  rw [isSentence, Logged.levels_bind, levels_report, Logged.value_bind, value_report]
  exact List.append_nil _

theorem Validator.levels_isValid (v : Validator) (raw : Text) :
    (v.isValid raw).levels = if (v.isValid raw).value then [] else [.trace] := by
  rw [isValid, Logged.levels_bind, levels_report, Logged.value_bind, value_report]
  exact List.append_nil _

/-! ### Records -/

/-- Reading the record of a line logs what asking whether the line is valid does. -/
theorem Record.events_parseWith (v : Validator) (raw : Text) :
    (parseWith v raw).events = (v.isValid raw).events := by
  rw [parseWith, Validator.isValid, Logged.events_bind, Logged.events_bind]
  split <;> rfl

theorem Record.isOk_parseWith (v : Validator) (raw : Text) :
    (parseWith v raw).value.isOk = (v.isValid raw).value := by
  rw [Bool.eq_iff_iff, ← exists_parseWith_iff]
  cases (parseWith v raw).value <;> simp [Except.isOk, Except.toBool]

theorem Record.levels_parseWith (v : Validator) (raw : Text) :
    (parseWith v raw).levels = if (parseWith v raw).value.isOk then [] else [.trace] := by
  rw [Logged.levels, events_parseWith, isOk_parseWith]
  exact v.levels_isValid raw

/-! ### Lines that are let pass -/

section Valid

variable (hv : (v.isValid raw).value = true)

include hv

theorem Validator.levels_isValid_of_valid : (v.isValid raw).levels = [] := by
  rw [levels_isValid, if_pos hv]

/-- What a validator lets pass, the one without policies lets pass too. -/
theorem Validator.isValid_default : (isValid {} raw).value = true := by
  obtain ⟨f, hf⟩ := isValid_iff.mp hv
  exact isValid_iff.mpr ⟨f, checkedFrame_default hf⟩

theorem levels_sentenceIdOf_of_valid : (sentenceIdOf raw).levels = [] := by
  obtain ⟨f, hf⟩ := Validator.isValid_iff.mp hv
  have framed := Validator.frame_default (Validator.checkedFrame_eq_ok_iff.mp hf).1
  rw [sentenceIdOf, addressOfLine, framed]
  rfl

/-- A kind looks at such a line without a word, also if it refuses it for its id. -/
theorem Kind.levels_parse_of_valid (k : Kind) : (k.parse raw).levels = [] := by
  have silent : (Record.parseWith {} raw).levels = [] := by
    rw [Record.levels_parseWith, Record.isOk_parseWith, if_pos (Validator.isValid_default hv)]
  simp only [parse, parseWith, Record.parseExpecting, Logged.levels_bind, Logged.levels_pure,
    silent, List.append_nil]

end Valid

namespace Registry

/-! ### Lines -/

/-- The levels that an answer to a line is logged at. -/
def levelsOf : Except Error Sentence → List Level
  | .ok _                         => []
  | .error (.malformedSentence _) => [.trace]
  | .error _                      => [.debug]

theorem levels_createFromText_of_not_valid (h : (r.validator.isValid raw).value = false) :
    (r.createFromText raw).levels = [.trace] := by
  rw [createFromText, Logged.levels_bind, Validator.levels_isValid, h]
  rfl

/-- Only the lookup of a valid line and the constructor that is found are logged. -/
theorem levels_createFromText_of_valid (h : (r.validator.isValid raw).value = true)
    (hid : (sentenceIdOf raw).value = some id) : (r.createFromText raw).levels =
      match r.entries.find? id with
      | some c => (readWith id raw c).levels
      | none   => [.debug] := by
  -- the first two looks at the line are silent
  rw [createFromText, Logged.levels_bind, Validator.levels_isValid_of_valid h, h, if_pos rfl,
    Logged.levels_bind, levels_sentenceIdOf_of_valid h, hid]
  dsimp only
  rw [Logged.levels_bind, lookup]
  cases r.entries.find? id with
  | none => rfl
  | some c => rfl

/-- The constructor of a kind logs a valid line if the kind refuses it. -/
theorem levels_readWith_of (h : (v.isValid raw).value = true) (id : Text) :
    (readWith id raw (.of tag k)).levels =
      if (k.parse raw).value.isOk then [] else [.debug] := by
  simp only [readWith, Constructor.fromText_of, Logged.levels_bind, k.levels_parse_of_valid h,
    List.nil_append]
  cases (k.parse raw).value <;> rfl

/-! ### Registries of kinds -/

/-- The constructors of a registry are those of kinds, under whatever ids. -/
def OfKinds (r : Registry) : Prop :=
  ∀ id c, r.entries.find? id = some c → ∃ tag k, c = .of tag k

/-- A request that brings in no constructor but that of a kind. -/
def Request.IsOfKind : Request → Prop
  | .register _ c => ∃ tag k, c = .of tag k
  | _             => True

theorem ofKinds_builtinEntries (r : Registry) (made other : Nat) :
    OfKinds { r with entries := builtinEntries made, made := other } := by
  rw [OfKinds]
  dsimp only
  intro id c h
  exact exists_of_find?_builtinEntries h

theorem OfKinds.withValidator (h : r.OfKinds) (v : Validator) : (r.withValidator v).OfKinds := h

theorem OfKinds.insert (h : r.OfKinds) (id : Text) (tag : Tag) (k : Kind) (made : Nat) :
    OfKinds { r with entries := r.entries.insert id (.of tag k), made } := by
  intro other c found
  rw [Entries.find?_insert] at found
  split at found
  · exact ⟨tag, k, (Option.some.inj found).symm⟩
  · exact h other c found

theorem OfKinds.erase (h : r.OfKinds) (sound : r.Sound) (id : Text) :
    OfKinds { r with entries := r.entries.erase id } := by
  intro other c found
  rw [sound.ascending.find?_erase] at found
  split at found
  · cases found
  · exact h other c found

theorem OfKinds.perform (h : r.OfKinds) (sound : r.Sound) {q : Request} (hq : q.IsOfKind) :
    (q.perform r).2.OfKinds := by
  cases q with
  | register id c =>
    obtain ⟨tag, k, rfl⟩ := hq
    exact h.insert id tag k r.made
  | registerKind k => exact h.insert k.id (.own r.made) k (r.made + 1)
  | unregister c =>
    rw [Request.perform, value_unregister]
    cases r.entries.idOf? (·.sameAs c) with
    | none => exact h
    | some id => exact h.erase sound id
  | unregisterId id =>
    rw [Request.perform, value_unregisterId]
    cases r.entries.find? id with
    | none => exact h
    | some c => exact h.erase sound id
  | reset =>
    rw [Request.perform, value_reset]
    exact ofKinds_builtinEntries r _ _
  | supports id => exact h
  | ids => exact h

/-- A registry of kinds stays one as long as it is only given constructors of kinds. -/
theorem OfKinds.run (h : r.OfKinds) (sound : r.Sound) {qs : List Request}
    (hq : ∀ q ∈ qs, q.IsOfKind) : (r.run qs).2.OfKinds := by
  induction qs generalizing r with
  | nil => exact h
  | cons q qs ih =>
    rw [List.forall_mem_cons] at hq
    exact ih (h.perform sound hq.1) (sound.perform q) hq.2

/-! ### Answers and their levels -/

/-- What becomes of a valid line: nothing is registered for its id, or it is read or refused by the
kind of the constructor that is found. -/
theorem OfKinds.valid_cases (h : r.OfKinds) (hv : (r.validator.isValid raw).value = true) :
    ∃ id, (sentenceIdOf raw).value = some id ∧
      ((r.entries.find? id = none ∧
          (r.createFromText raw).value = .error (.unsupportedSentence id)) ∨
        ∃ tag k, r.entries.find? id = some (.of tag k) ∧
          (r.createFromText raw).value = (k.parse raw).value ∧
          ∀ why, (k.parse raw).value = .error why → why = .sentenceIdMismatch k.id id) := by
  obtain ⟨record, hr⟩ := Record.exists_parseWith_iff.mpr hv
  have hid := Record.sentenceIdOf_of_parseWith hr
  have create := createFromText_of_valid hv hid
  refine ⟨record.id, hid, ?_⟩
  cases found : r.entries.find? record.id with
  | none =>
    rw [found] at create
    exact .inl ⟨rfl, create⟩
  | some c =>
    obtain ⟨tag, k, rfl⟩ := h record.id c found
    rw [found] at create
    refine .inr ⟨tag, k, rfl, create.trans (value_readWith Constructor.fromText_of _ _), ?_⟩
    intro why refused
    rw [Kind.value_parse_eq_ite (Record.parse_of_parseWith hr)] at refused
    split at refused
    · cases refused
    · exact (Except.error.inj refused).symm

theorem OfKinds.levels_createFromText (h : r.OfKinds) (raw : Text) :
    (r.createFromText raw).levels = levelsOf (r.createFromText raw).value := by
  cases hv : (r.validator.isValid raw).value with
  | false => rw [createFromText_of_not_valid hv, levels_createFromText_of_not_valid hv, levelsOf]
  | true =>
    obtain ⟨id, hid, ⟨none, answer⟩ | ⟨tag, k, found, answer, mismatch⟩⟩ := h.valid_cases hv
    · rw [levels_createFromText_of_valid hv hid, none, answer, levelsOf]
      nofun
    · rw [levels_createFromText_of_valid hv hid, found, answer]
      refine (levels_readWith_of hv id).trans ?_
      cases parsed : (k.parse raw).value with
      | ok sentence => rfl
      | error why =>
        -- a kind refuses a valid line for its id only, and never calls it malformed
        rw [mismatch why parsed]
        rfl

/-- How what a registry answers to a line is logged. -/
structure LogsOnce (r : Registry) (raw : Text) : Prop where
  malformed : ∀ text, (r.createFromText raw).value = .error (.malformedSentence text) →
    (r.createFromText raw).levels = [.trace]
  /-- Nothing is registered for the id of a line that the validator lets pass. -/
  unknown : ∀ id, (r.validator.isValid raw).value = true → (sentenceIdOf raw).value = some id →
    r.supports id = false → (r.createFromText raw).value = .error (.unsupportedSentence id) ∧
      (r.createFromText raw).levels = [.debug]
  /-- The kind that is registered for the id refuses the line. -/
  refused : ∀ id tag k why, (r.validator.isValid raw).value = true →
    (sentenceIdOf raw).value = some id → r.entries.find? id = some (.of tag k) →
    (k.parse raw).value = .error why → (r.createFromText raw).value = .error why ∧
      (r.createFromText raw).levels = [.debug]
  read : ∀ sentence, (r.createFromText raw).value = .ok sentence →
    (r.createFromText raw).events = []
  /-- There is no failure that is not logged, or logged twice. -/
  failed : ∀ why, (r.createFromText raw).value = .error why →
    (r.createFromText raw).events.length = 1

theorem OfKinds.logsOnce (h : r.OfKinds) (raw : Text) : r.LogsOnce raw where
  malformed text answer := by rw [h.levels_createFromText, answer, levelsOf]
  unknown id valid hid unsupported := by
    have none : r.entries.find? id = none := by simpa [supports] using unsupported
    have answer := createFromText_of_valid valid hid
    rw [none] at answer
    exact ⟨answer, by rw [levels_createFromText_of_valid valid hid, none]⟩
  refused id tag k why valid hid found parsed := by
    have answer := createFromText_of_valid valid hid
    rw [found] at answer
    refine ⟨(answer.trans (value_readWith Constructor.fromText_of _ _)).trans parsed, ?_⟩
    rw [levels_createFromText_of_valid valid hid, found]
    refine (levels_readWith_of valid id).trans ?_
    rw [parsed]
    rfl
  read sentence answer := by
    rw [Logged.events_eq_nil_iff, h.levels_createFromText, answer, levelsOf]
  failed why answer := by
    have levels := h.levels_createFromText raw
    rw [answer] at levels
    rw [← List.length_map (f := Event.level), ← Logged.levels, levels]
    cases why <;> rfl

/-- Whatever a validator turns away it logs by one trace, be it asked for the shape, for the
validity or for the record of a line, and what it accepts it does not log. A registry of
constructors of kinds logs a line that it calls malformed by one trace, and by one debug message
a line of an id that nothing is registered for or that the kind refuses, also if the kind
is registered under another id than its own. A sentence that it creates is not logged. -/
theorem levels_logged (h : r.OfKinds) :
    (∀ v raw,
      (v.isSentence raw).levels = (if (v.isSentence raw).value then [] else [.trace]) ∧
      (v.isValid raw).levels = (if (v.isValid raw).value then [] else [.trace]) ∧
      (Record.parseWith v raw).levels =
        (if (Record.parseWith v raw).value.isOk then [] else [.trace])) ∧
    ∀ raw, r.LogsOnce raw :=
  ⟨fun v raw => ⟨v.levels_isSentence raw, v.levels_isValid raw, Record.levels_parseWith v raw⟩,
    h.logsOnce⟩

/-- A validator that wants a checksum, a kind under the id of no kind, and a built-in one taken
out. -/
theorem levels_logged_renamed :
    let r := ((builtin.withValidator ⟨.required, .optional⟩).run
      [.register "XYZ".toList (.of (.given 1) Kind.rmc), .unregisterId "GGA".toList]).2
    r.OfKinds ∧
      (r.createFromText "$GPXYZ,1".toList).levels = [.trace] ∧
      (r.createFromText "$GPGGA,1*4B".toList).levels = [.debug] ∧
      (r.createFromText "$GPXYZ,1*51".toList).value =
        .error (.sentenceIdMismatch "RMC".toList "XYZ".toList) ∧
      (r.createFromText "$GPXYZ,1*51".toList).levels = [.debug] ∧
      ∃ sentence, (r.createFromText "$GPRMC,,V*1D".toList).value = .ok sentence ∧
        (r.createFromText "$GPRMC,,V*1D".toList).events = [] := by
  intro r
  have new : (builtin.withValidator ⟨.required, .optional⟩).OfKinds :=
    (ofKinds_builtinEntries empty 0 Kind.builtins.length).withValidator _
  have ofKinds : r.OfKinds := by
    refine new.run (InUse.withValidator .builtin _).sound ?_
    simp [Request.IsOfKind]
  have logged := (levels_logged ofKinds).2
  have malformed : (r.createFromText "$GPXYZ,1".toList).value =
      .error (.malformedSentence "$GPXYZ,1".toList) := by rfl
  refine ⟨ofKinds, (logged _).malformed _ malformed, ?_⟩
  obtain ⟨-, unknown⟩ := (logged "$GPGGA,1*4B".toList).unknown "GGA".toList (by decide +kernel)
    (by decide +kernel) (by decide +kernel)
  obtain ⟨mismatch, refused⟩ := (logged "$GPXYZ,1*51".toList).refused "XYZ".toList (.given 1)
    Kind.rmc (.sentenceIdMismatch "RMC".toList "XYZ".toList) (by decide +kernel)
    (by decide +kernel) (by rfl) (by rfl)
  have created : (r.createFromText "$GPRMC,,V*1D".toList).value = .ok ⟨.rmc, ⟨.standard,
      .named .GP, "RMC".toList, [[], ['V']]⟩⟩ := by rfl
  exact ⟨unknown, mismatch, refused, _, created, (logged _).read _ created⟩

end Registry

end Nmea
