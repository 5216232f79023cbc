import Nmea.Proofs.Serial.Sentence

/-!
# Talkers and their codes

Talkers and codes stand for each other, one to one: every code is read as one talker, with a name or
without, which is written as the same code again, and no other text is read as a talker
(`Talker.codedOneToOne`). Documents hold talkers by their codes.
-/

namespace Nmea

variable {a b : Char} {code : Text} {t : Talker} {d : Datum}

/-! ### Reading codes -/

theorem TalkerCode.parse_eq_ok_iff {c : TalkerCode} :
    TalkerCode.parse a b = .ok c ↔ c.text = [a, b] := by
  rw [← ofChars?_eq_some_iff, parse]
  split <;> simp [*]

namespace Talker

theorem parse_eq_ok_iff : Talker.parse code = .ok t ↔ t.text = code := by
  rw [← ofText?_eq_some_iff, parse]
  split <;> simp [*]

/-- The single `P`, and two upper-case letters or digits that do not begin so. -/
def IsCode (code : Text) : Prop :=
  code = ['P'] ∨ ∃ a b, code = [a, b] ∧ a ≠ 'P' ∧
    ∀ c ∈ code, ('A' ≤ c ∧ c ≤ 'Z') ∨ ('0' ≤ c ∧ c ≤ '9')

theorem isCode_text (t : Talker) : IsCode t.text := by
  rcases t.text_cases with rfl | ⟨a, b, pair, first⟩
  · exact .inl rfl
  · refine .inr ⟨a, b, pair, first, fun c hc => ?_⟩
    exact isAddressChar_iff.mp (List.all_eq_true.mp t.all_isAddressChar_text c hc)

theorem exists_text_of_isCode (h : IsCode code) : ∃ t : Talker, t.text = code := by
  rcases h with rfl | ⟨a, b, rfl, first, chars⟩
  · exact ⟨.named .P, rfl⟩
  · simp only [← isAddressChar_iff] at chars
    obtain ⟨t, read⟩ := exists_ofText?_pair (chars a (by simp)) (chars b (by simp)) first
    exact ⟨t, text_of_ofText? read⟩

theorem exists_text_eq_iff : (∃ t : Talker, t.text = code) ↔ IsCode code := by
  constructor
  · rintro ⟨t, rfl⟩
    exact t.isCode_text
  · exact exists_text_of_isCode

/-! ### Codes in documents -/

theorem decode_eq_ok_iff :
    (Serial.decode d : Decoding Talker).run.value = .ok t ↔ d = .text t.text := by
  have read : (Serial.decode d : Decoding Talker).run.value = .ok t ↔
      ∃ raw, d = .text raw ∧ Talker.parse raw = .ok t := Serial.decodeText_eq_ok_iff
  rw [read]
  simp [parse_eq_ok_iff]

/-! ### One to one -/

/-- A talker for each code, and a code for each talker. -/
structure CodedOneToOne : Prop where
  /-- A talker is read from the codes and from no other text. -/
  exists_parse_iff : ∀ code, (∃ t, Talker.parse code = .ok t) ↔ IsCode code
  parse_eq_error : ∀ code, ¬ IsCode code → Talker.parse code = .error (.invalidTalkerId code)
  /-- A talker is read from what it is written as, and written as what it was read from. -/
  parse_eq_ok_iff : ∀ code t, Talker.parse code = .ok t ↔ t.text = code
  /-- Two characters are the code of a talker without a name exactly if one is read from them. -/
  parse_other_iff : ∀ a b c, TalkerCode.parse a b = .ok c ↔ Talker.parse [a, b] = .ok (.other c)
  /-- No two talkers have one code, be they with a name or without. -/
  text_injective : Function.Injective Talker.text
  exists_decode_iff : ∀ code,
    (∃ t, (Serial.decode (.text code) : Decoding Talker).run.value = .ok t) ↔ IsCode code
  /-- A talker stands in a document as its code, and in no other way. -/
  decode_eq_ok_iff : ∀ d t, (Serial.decode d : Decoding Talker).run.value = .ok t ↔
    d = Serial.encode t

theorem codedOneToOne : CodedOneToOne where
  exists_parse_iff code := by
    simp only [parse_eq_ok_iff, exists_text_eq_iff]
  parse_eq_error code h := by
    rw [parse]
    split
    · next t read => exact absurd (exists_text_eq_iff.mp ⟨t, text_of_ofText? read⟩) h
    · rfl
  parse_eq_ok_iff code t := parse_eq_ok_iff
  parse_other_iff a b c := by
    rw [parse_eq_ok_iff, TalkerCode.parse_eq_ok_iff]
    rfl
  text_injective t u h := by
    have read := ofText?_text t
    rw [h, ofText?_text] at read
    exact (Option.some.inj read).symm
  exists_decode_iff code := by
    rw [← exists_text_eq_iff]
    refine exists_congr fun t => ?_
    rw [decode_eq_ok_iff, Datum.text.injEq, eq_comm]
  decode_eq_ok_iff d t := decode_eq_ok_iff

end Talker

end Nmea
