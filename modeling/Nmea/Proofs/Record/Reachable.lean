import Nmea.Proofs.Declaration.Settings
import Nmea.Proofs.Kind.Sentence

/-!
# Reachable records

A record is reachable if it was read from a line, built for an address or as a blank sentence of a
declared kind, and then edited any number of times, whether or not the edits failed. Every
reachable record is well formed (`Record.Reachable.wellFormed`), so that its line stands for it
and for nothing else (`Record.toText_round_trip`).
-/

namespace Nmea

variable {r s : Record}

namespace Record

/-- The records to begin with. -/
inductive Obtained : Record → Prop
  /-- A record that is read from a line. -/
  | read {v : Validator} {raw : Text} {r : Record} (h : (parseWith v raw).value = .ok r) :
      Obtained r
  /-- A record with an expected id that is read from a line. -/
  | readExpecting {v : Validator} {id raw : Text} {r : Record}
      (h : (parseExpecting v id raw).value = .ok r) : Obtained r
  /-- A record of empty fields. -/
  | built {opening : Opening} {talker : Talker} {id : Text} {count : Nat} {r : Record}
      (h : new opening talker id count = .ok r) : Obtained r
  /-- The record of a blank sentence whose kind the items of a declaration describe. -/
  | declared {name : Text} {items : List Declaration.Item} {k : Kind} (talker : Talker)
      (h : Declaration.kindOfItems name items = .ok k) : Obtained (k.forTalker talker).value.record

/-- What a record becomes by a run of edits, those that fail included. -/
inductive EditedFrom (r : Record) : Record → Prop
  | start : EditedFrom r r
  | edit {s : Record} {e : Edit Unit} (h : EditedFrom r s) (he : e.Offered) :
      EditedFrom r (e.apply s).2

/-- A record that was obtained and then edited. -/
def Reachable (r : Record) : Prop := ∃ s, Obtained s ∧ EditedFrom s r

theorem Obtained.wellFormed (h : Obtained r) : r.WellFormed := by
  cases h with
  | read h => exact wellFormed_of_parseWith h
  | readExpecting h => exact wellFormed_of_parseWith (parseExpecting_eq_ok_iff.mp h).1
  | built h =>
    rw [new] at h
    split at h
    · next ha =>
      cases h
      exact wellFormed_blank ha _ _
    · cases h
  | declared talker h =>
    have id := Declaration.isSentenceId_of_kindOfItems h
    exact Kind.wellFormed_forTalker (Declaration.isAddressPair_of_isSentenceId id talker)

/-- A run of edits keeps a record well formed. -/
theorem EditedFrom.wellFormed (h : EditedFrom r s) (hr : r.WellFormed) : s.WellFormed := by
  induction h with
  | start => exact hr
  | edit _ he ih => exact he.keeps_wellFormed _ ih

/-- A run of edits keeps the sentence id. -/
theorem EditedFrom.id_eq (h : EditedFrom r s) : s.id = r.id := by
  induction h with
  | start => rfl
  | edit _ he ih => exact he.keeps_id r.id _ ih

theorem Reachable.wellFormed (h : Reachable r) : r.WellFormed := by
  obtain ⟨s, hs, h⟩ := h
  exact h.wellFormed hs.wellFormed

/-- A reachable record is read again from its line, under every validator that allows what ends it,
with a checksum that satisfies the strictest policy; therefore two reachable records have the same
line only if all their parts are the same. -/
theorem toText_round_trip (h : Reachable r) :
    (∀ (v : Validator) (t : Option Terminator), v.lineEnding.allows t = true →
      (parseWith v (r.toText ++ Terminator.endText t)).value = .ok r) ∧
    ∀ s, Reachable s → (r.sameText s = true ↔
      r.opening = s.opening ∧ r.talker = s.talker ∧ r.id = s.id ∧ r.fields = s.fields) := by
  refine ⟨fun v t ht => h.wellFormed.parseWith_toText ht, ?_⟩
  intro s hs
  rw [sameText, decide_eq_true_eq]
  constructor
  · intro e
    cases h.wellFormed.eq_of_toText_eq hs.wellFormed e
    exact ⟨rfl, rfl, rfl, rfl⟩
  · rintro ⟨ho, ht, hi, hf⟩
    rw [toText, toText, body, body, ho, ht, hi, hf]

/-- The blank sentence of a declared kind with the longest id, a latitude of which only the
magnitude could be written. -/
theorem toText_round_trip_half_written :
    let items : List Declaration.Item :=
      [.setting .id (.text "GRMEZ123".toList), .setting .fields (.integer false 3 false),
        .setting .opening (.char '!'), .preset false 2 "M".toList]
    let k : Kind := ⟨"Custom".toList, "GRMEZ123".toList, 3, .encapsulation, [(2, "M".toList)]⟩
    let blank := (k.forTalker (.named .GP)).value.record
    let r := ((Edit.setLatitude 0 3 (.ofNat 45)).apply blank).2
    Declaration.kindOfItems "Custom".toList items = .ok k ∧
      ((Edit.setLatitude 0 3 (.ofNat 45)).apply blank).1.isOk = false ∧
      r.fields = ["4500.000".toList, [], "M".toList] ∧
      (parseWith ⟨.required, .required⟩ (r.toText ++ ['\n', '\r'])).value = .ok r := by
  intro items k blank r
  have declared : Declaration.kindOfItems "Custom".toList items = .ok k := by rfl
  have reachable : Reachable r :=
    ⟨blank, .declared (.named .GP) declared, .edit .start (.setLatitude 0 3 (.ofNat 45))⟩
  refine ⟨declared, by decide +kernel, by decide +kernel, ?_⟩
  exact (toText_round_trip reachable).1 ⟨.required, .required⟩ (some .lfcr) rfl

end Record

end Nmea
