import Nmea.Kind.Builtin
import Nmea.Proofs.Record.Reading
import Nmea.Serial

/-!
# Sentences in documents

A document holds a sentence as the text of its line. When the line is read back, the kind is not
asked for its id: a sentence is decoded exactly if its record can be read, and a decoded sentence
is one that the kind itself reads from the line exactly if it carries the id of the kind
(`Serial.decodeSentence_eq_ok_iff`).
-/

namespace Nmea

variable {k : Kind} {d : Datum} {raw : Text} {s : Sentence} {r : Record}

/-! ### Sentences of lines -/

/-- A kind reads the sentences that carry its id. -/
theorem Kind.parse_eq_ok_iff : (k.parse raw).value = .ok s ↔
    s.kind = k ∧ (Record.parse raw).value = .ok s.record ∧ s.record.id = k.id := by
  obtain ⟨kind, record⟩ := s
  rw [parse, parseWith, Logged.value_bind, Logged.value_pure, Record.parse,
    ← Record.parseExpecting_eq_ok_iff]
  cases (Record.parseExpecting {} k.id raw).value with
  | error why => simp [Except.map]
  | ok r =>
    simp only [Except.map, Except.ok.injEq, Sentence.mk.injEq]
    exact and_congr_left' eq_comm

namespace Serial

/-! ### Texts in documents -/

section Texts

variable {α : Type} {a : α}

theorem value_decodeText (parse : Text → Logged (Except Error α)) (raw : Text) :
    (decodeText parse (.text raw)).run.value = (parse raw).value.mapError .cause := by
  have lifted : (liftM (parse raw) : Decoding (Except Error α)).run.value =
      .ok (parse raw).value := rfl
  rw [decodeText, ExceptT.run_bind, Logged.value_bind, lifted]
  cases (parse raw).value with
  | error why => rfl
  | ok a => rfl

/-- What is read from texts stands in a document as a text that it can be read from, and in no other
way. -/
theorem decodeText_eq_ok_iff {parse : Text → Logged (Except Error α)} :
    (decodeText parse d).run.value = .ok a ↔ ∃ raw, d = .text raw ∧ (parse raw).value = .ok a := by
  cases d with
  | text raw =>
    rw [value_decodeText]
    cases h : (parse raw).value with
    | error why =>
      constructor
      · rintro ⟨⟩
      · rintro ⟨_, ⟨⟩, read⟩
        rw [h] at read
        cases read
    | ok b =>
      constructor
      · rintro ⟨⟩
        exact ⟨raw, rfl, h⟩
      · rintro ⟨_, ⟨⟩, read⟩
        rw [h] at read
        cases read
        rfl
  | _ =>
    constructor
    · rintro ⟨⟩
    · rintro ⟨raw, ⟨⟩, -⟩

theorem decode_record_eq_ok_iff : (decode d : Decoding Record).run.value = .ok r ↔
    ∃ raw, d = .text raw ∧ (Record.parse raw).value = .ok r :=
  decodeText_eq_ok_iff

end Texts

/-! ### Sentences of documents -/

theorem value_decodeSentence (k : Kind) (d : Datum) : (decodeSentence k d).run.value =
    (decode d : Decoding Record).run.value.map fun r => ⟨k, r⟩ := by
  rw [decodeSentence, ExceptT.run_bind, Logged.value_bind]
  cases (decode d : Decoding Record).run.value with
  | error why => rfl
  | ok r => rfl

/-- Whatever its id is, the record of a line is decoded as a sentence of any kind. -/
theorem decodeSentence_of_parse (h : (Record.parse raw).value = .ok r) :
    (decodeSentence k (.text raw)).run.value = .ok ⟨k, r⟩ := by
  rw [value_decodeSentence, decode_record_eq_ok_iff.mpr ⟨raw, rfl, h⟩]
  rfl

theorem value_decodeSentence_eq_ok_iff : (decodeSentence k d).run.value = .ok s ↔
    s.kind = k ∧ ∃ raw, d = .text raw ∧ (Record.parse raw).value = .ok s.record := by
  rw [value_decodeSentence, ← decode_record_eq_ok_iff]
  obtain ⟨kind, record⟩ := s
  cases (decode d : Decoding Record).run.value with
  | error why => simp [Except.map]
  | ok r =>
    simp only [Except.map, Except.ok.injEq, Sentence.mk.injEq]
    exact and_congr_left' eq_comm

/-- A sentence is decoded from the text of a line that its record is read from, and from nothing
else. The kind reads the same sentence from the line if the record carries its id; if the record
carries another one, the kind reads no sentence from the line. -/
theorem decodeSentence_eq_ok_iff (k : Kind) (d : Datum) (s : Sentence) :
    ((decodeSentence k d).run.value = .ok s ↔
      s.kind = k ∧ ∃ raw, d = .text raw ∧ (Record.parse raw).value = .ok s.record) ∧
    ∀ raw, ((k.parse raw).value = .ok s ↔
      (decodeSentence k (.text raw)).run.value = .ok s ∧ s.record.id = k.id) := by
  refine ⟨value_decodeSentence_eq_ok_iff, fun raw => ?_⟩
  rw [value_decodeSentence_eq_ok_iff, Kind.parse_eq_ok_iff]
  constructor
  · rintro ⟨hk, hr, hid⟩
    exact ⟨⟨hk, raw, rfl, hr⟩, hid⟩
  · rintro ⟨⟨hk, _, ⟨⟩, hr⟩, hid⟩
    exact ⟨hk, hr, hid⟩

/-- A heading is decoded as a position fix, and the sentence carries the id of a heading. -/
theorem not_id_of_decodeSentence :
    let raw := "$HEHDT,274.1,T".toList
    let r : Record := ⟨.standard, .named .HE, "HDT".toList, ["274.1".toList, "T".toList]⟩
    Kind.gga ∈ Kind.builtins ∧ (decodeSentence .gga (.text raw)).run.value = .ok ⟨.gga, r⟩ ∧
      r.id ≠ Kind.gga.id ∧ ¬ ∃ s, (Kind.gga.parse raw).value = .ok s := by
  intro raw r
  have parsed : (Record.parse raw).value = .ok r := by rfl
  refine ⟨by decide, decodeSentence_of_parse parsed, by decide, ?_⟩
  rintro ⟨s, h⟩
  obtain ⟨-, hr, hid⟩ := Kind.parse_eq_ok_iff.mp h
  have e : r = s.record := Except.ok.inj (parsed.symm.trans hr)
  exact absurd (e ▸ hid) (by decide)

end Serial

end Nmea
