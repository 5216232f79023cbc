import Nmea.Proofs.Address.Split
import Nmea.Proofs.Line.Validator
import Nmea.Record.Basic

/-!
# Reading records

A record is read from a line exactly if the line is valid: every frame that is cut from a line has
a record (`Record.exists_ofFrame?`), which holds the parts of the frame and nothing else
(`Record.ofFrame?_eq_some_iff`).

Whatever takes a line for a sentence, reads its record or only resolves its address, agrees on the
line (`Record.readingsAgree`).
-/

namespace Nmea.Record

variable {v w : Validator} {raw : Text} {f : Frame} {r s : Record}

/-! ### Records of frames -/

/-- A frame has a record if the parts of the record join to the parts of the frame. -/
theorem ofFrame?_eq_some_iff : ofFrame? f = some r ↔
    r.opening = f.opening ∧ addressOf r.talker r.id = f.address ∧
      r.fields = f.data.splitOn ',' := by
  rw [ofFrame?, Option.map_eq_some_iff]
  constructor
  · rintro ⟨⟨talker, id⟩, h, rfl⟩
    exact ⟨rfl, addressOf_of_splitAddress? h, rfl⟩
  · rintro ⟨ho, ha, hf⟩
    refine ⟨(r.talker, r.id), ?_, ?_⟩
    · rw [← ha, splitAddress?_addressOf]
    · rw [← ho, ← hf]

/-- A well-formed frame has a record, whatever its address is. -/
theorem exists_ofFrame? (h : f.WellFormed) : ∃ r, ofFrame? f = some r := by
  obtain ⟨talker, id, hs⟩ := exists_splitAddress? h.isAddress_address
  refine ⟨⟨f.opening, talker, id, f.data.splitOn ','⟩, ?_⟩
  rw [ofFrame?, hs]
  rfl

/-! ### Records of lines -/

/-- A record is read if it is the record of the checked frame. -/
theorem parseWith_eq_ok_iff : (parseWith v raw).value = .ok r ↔
    ∃ f, v.checkedFrame raw = .ok f ∧ ofFrame? f = some r := by
  simp only [parseWith, Logged.value_bind, Validator.value_report]
  cases h : v.checkedFrame raw with
  | error why => simp [Except.toOption]
  | ok f => cases hr : ofFrame? f <;> simp [Except.toOption, hr]

/-- Reading a record fails with one error only. -/
theorem eq_malformedSentence_of_parseWith {e : Error} (h : (parseWith v raw).value = .error e) :
    e = .malformedSentence raw := by
  simp only [parseWith, Logged.value_bind] at h
  split at h
  · cases h
  · cases h
    rfl

/-- Expecting an id only turns records away. -/
theorem parseExpecting_eq_ok_iff {id : Text} : (parseExpecting v id raw).value = .ok r ↔
    (parseWith v raw).value = .ok r ∧ r.id = id := by
  simp only [parseExpecting, Logged.value_bind, Logged.value_pure]
  cases (parseWith v raw).value with
  | error why => simp [Except.bind]
  | ok s =>
    rw [Except.ok.injEq]
    by_cases hs : s.id = id
    · simp only [Except.bind, expecting, hs, if_pos, Except.ok.injEq]
      constructor
      · rintro rfl
        exact ⟨rfl, hs⟩
      · exact And.left
    · simp only [Except.bind, expecting, hs, if_false, reduceCtorEq, false_iff]
      rintro ⟨rfl, h⟩
      exact hs h

/-- A record is read from exactly the valid lines. -/
theorem exists_parseWith_iff :
    (∃ r, (parseWith v raw).value = .ok r) ↔ (v.isValid raw).value = true := by
  rw [Validator.isValid_iff]
  constructor
  · rintro ⟨r, h⟩
    obtain ⟨f, hf, -⟩ := parseWith_eq_ok_iff.mp h
    exact ⟨f, hf⟩
  · rintro ⟨f, hf⟩
    obtain ⟨r, hr⟩ := exists_ofFrame? (Validator.wellFormed_of_checkedFrame hf).1
    exact ⟨r, parseWith_eq_ok_iff.mpr ⟨f, hf, hr⟩⟩

/-- The policies make no difference to the record. -/
theorem parse_of_parseWith (h : (parseWith v raw).value = .ok r) :
    (parse raw).value = .ok r := by
  obtain ⟨f, hf, hr⟩ := parseWith_eq_ok_iff.mp h
  exact parseWith_eq_ok_iff.mpr ⟨f, Validator.checkedFrame_default hf, hr⟩

/-- The terminator of a line makes no difference to the record. -/
theorem parse_append_endText_iff (hr : '\r' ∉ raw) (hn : '\n' ∉ raw) (t : Option Terminator) :
    (parse (raw ++ Terminator.endText t)).value = .ok r ↔ (parse raw).value = .ok r := by
  simp only [parse, parseWith_eq_ok_iff, Validator.checkedFrame_append_endText_iff hr hn]
  constructor
  · rintro ⟨-, ⟨g, hg, rfl⟩, h⟩
    exact ⟨g, hg, h⟩
  · rintro ⟨g, hg, h⟩
    exact ⟨_, ⟨g, hg, rfl⟩, h⟩

/-! ### Addresses of lines -/

theorem value_addressOfLine (raw : Text) : (addressOfLine raw).value =
    (Validator.frame {} raw).toOption.bind fun f => splitAddress? f.address := by
  simp [addressOfLine]

/-- Exactly the lines with the shape of a sentence have an address that can be resolved. -/
theorem isSome_addressOfLine (raw : Text) :
    (addressOfLine raw).value.isSome = (Validator.isSentence {} raw).value := by
  rw [value_addressOfLine, Validator.value_isSentence]
  cases h : Validator.frame {} raw with
  | error why => rfl
  | ok f =>
    have wf := (Validator.wellFormed_of_frame h).1
    obtain ⟨talker, id, hs⟩ := exists_splitAddress? wf.isAddress_address
    simp [Except.toOption, hs]

/-- The talker and the id of a line are those of its record. -/
theorem addressOfLine_of_parseWith (h : (parseWith v raw).value = .ok r) :
    (addressOfLine raw).value = some (r.talker, r.id) := by
  obtain ⟨f, hf, hr⟩ := parseWith_eq_ok_iff.mp h
  have hd := Validator.frame_default (Validator.checkedFrame_eq_ok_iff.mp hf).1
  obtain ⟨-, ha, -⟩ := ofFrame?_eq_some_iff.mp hr
  rw [value_addressOfLine, hd, ← splitAddress?_addressOf, ha]
  rfl

theorem sentenceIdOf_of_parseWith (h : (parseWith v raw).value = .ok r) :
    (sentenceIdOf raw).value = some r.id := by
  rw [sentenceIdOf, Logged.value_bind, addressOfLine_of_parseWith h]
  rfl

/-! ### Agreement -/

/-- All that takes a line for a sentence, reads its record or resolves its address agrees. -/
structure ReadingsAgree (raw : Text) : Prop where
  /-- A validator has a record read from exactly the lines that it calls valid. -/
  exists_iff_valid : ∀ v,
    (∃ r, (parseWith v raw).value = .ok r) ↔ (Validator.isValid v raw).value = true
  /-- The first character of a framed line opens a sentence, and its address has a talker. -/
  divides : ∀ (v : Validator) (f : Frame), v.checkedFrame raw = .ok f →
    raw.head?.bind Opening.ofChar? = some f.opening ∧
      ∃ talker id, splitAddress? f.address = some (talker, id)
  /-- A line that no record is read from is malformed. -/
  error_eq : ∀ v e, (parseWith v raw).value = .error e → e = .malformedSentence raw
  /-- The id is resolved in exactly the lines with the shape of a sentence. -/
  isSome_id : (sentenceIdOf raw).value.isSome = (Validator.isSentence {} raw).value
  /-- The talker is resolved in exactly the lines with the shape of a sentence. -/
  isSome_talker : (talkerOf raw).value.isSome = (Validator.isSentence {} raw).value
  /-- Resolving finds the address of the record. -/
  address_eq : ∀ v r, (parseWith v raw).value = .ok r →
    (sentenceIdOf raw).value = some r.id ∧ (talkerOf raw).value = some r.talker
  /-- Validators differ in the lines they accept, but not in the record. -/
  record_eq : ∀ v w r s, (parseWith v raw).value = .ok r → (parseWith w raw).value = .ok s → r = s
  /-- What some validator calls valid is valid without policies. -/
  valid_default : ∀ v, (Validator.isValid v raw).value = true →
    (Validator.isValid {} raw).value = true
  /-- A terminator behind a line without one changes nothing. -/
  terminated : '\r' ∉ raw → '\n' ∉ raw → ∀ t : Terminator,
    (Validator.isSentence {} (raw ++ t.text)).value = (Validator.isSentence {} raw).value ∧
    (Validator.isValid {} (raw ++ t.text)).value = (Validator.isValid {} raw).value ∧
    ∀ r, (parse (raw ++ t.text)).value = .ok r ↔ (parse raw).value = .ok r

/-- The readings of any text agree. -/
theorem readingsAgree (raw : Text) : ReadingsAgree raw where
  exists_iff_valid _ := exists_parseWith_iff
  divides v f h := by
    obtain ⟨wf, rfl⟩ := Validator.wellFormed_of_checkedFrame h
    exact ⟨Opening.ofChar?_char f.opening, exists_splitAddress? wf.isAddress_address⟩
  error_eq _ _ h := eq_malformedSentence_of_parseWith h
  isSome_id := by
    rw [← isSome_addressOfLine]
    exact Option.isSome_map
  isSome_talker := by
    rw [← isSome_addressOfLine]
    exact Option.isSome_map
  address_eq v r h := by
    have ha := addressOfLine_of_parseWith h
    simp only [sentenceIdOf, talkerOf, Logged.value_bind, Logged.value_pure, ha]
    exact ⟨rfl, rfl⟩
  record_eq v w r s hr hs := by
    have h := (parse_of_parseWith hr).symm.trans (parse_of_parseWith hs)
    exact Except.ok.inj h
  valid_default v h := by
    rw [Validator.isValid_iff] at h ⊢
    obtain ⟨f, hf⟩ := h
    exact ⟨f, Validator.checkedFrame_default hf⟩
  terminated hr hn t :=
    ⟨Validator.value_isSentence_append_endText hr hn (some t),
      Validator.value_isValid_append_endText hr hn (some t),
      fun _ => parse_append_endText_iff hr hn (some t)⟩

end Nmea.Record
