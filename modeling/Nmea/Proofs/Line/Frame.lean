import Nmea.Line.Frame
import Nmea.Proofs.Outcome
import Nmea.Proofs.Text.Class
import Nmea.Proofs.Text.Cut

/-!
# Frames and lines

A frame is well formed if each of its parts can stand where a line has it. Cutting a line into a
frame and putting the frame together are inverse to each other between the lines that hold a
sentence and the well-formed frames (`Frame.ofText?_eq_some_iff`).
-/

namespace Nmea

/-! ### Terminators -/

namespace Terminator

variable {s : Text} {t : Option Terminator}

/-- The end of a line is one of the texts of a terminator, or nothing. -/
theorem ofEnd?_eq_some_iff : ofEnd? s = some t ↔ s = endText t := by
  constructor
  · intro h
    unfold ofEnd? at h
    split at h <;> cases h <;> rfl
  · rintro rfl
    exact ofEnd?_endText t

/-- A terminator begins outside the printable characters. -/
theorem not_isPrintable_of_mem_head? : ∀ c ∈ (endText t).head?, isPrintable c = false := by
  intro c hc
  match t with
  | none => cases hc
  | some .crlf | some .lfcr | some .cr | some .lf =>
    cases hc
    rfl

end Terminator

/-- A line without the terminator at its end, if it has one. -/
def dropTerminator (line : Text) : Text :=
  match line.reverse with
  | '\n' :: '\r' :: rest => rest.reverse
  | '\r' :: '\n' :: rest => rest.reverse
  | '\n' :: rest         => rest.reverse
  | '\r' :: rest         => rest.reverse
  | _                    => line

/-- Behind a text without ends of lines exactly the terminator is dropped. -/
theorem dropTerminator_append_endText {s : Text} (hr : '\r' ∉ s) (hn : '\n' ∉ s)
    (t : Option Terminator) : dropTerminator (s ++ Terminator.endText t) = s := by
  obtain ⟨u, rfl⟩ : ∃ u : Text, s = u.reverse := ⟨s.reverse, s.reverse_reverse.symm⟩
  rw [List.mem_reverse] at hr hn
  unfold dropTerminator
  rw [List.reverse_append, List.reverse_reverse]
  match t with
  | some .crlf | some .lfcr => rfl
  | none | some .cr | some .lf =>
    -- what stands before the end cannot be taken for a part of it
    simp only [Terminator.endText, Terminator.text]
    split <;> simp_all

theorem dropTerminator_of_not_mem {s : Text} (hr : '\r' ∉ s) (hn : '\n' ∉ s) :
    dropTerminator s = s := by
  simpa [Terminator.endText] using dropTerminator_append_endText hr hn none

/-! ### Well-formed frames -/

namespace Frame

/-- Each part of a frame can stand where a line has it. -/
structure WellFormed (f : Frame) : Prop where
  /-- The address can be one. -/
  isAddress_address : isAddress f.address = true
  /-- The fields hold no delimiter of the checksum. -/
  star_not_mem_data : '*' ∉ f.data
  /-- The fields and the checksum are printable. -/
  isPrintable_payload : f.payload.all isPrintable = true

variable {f : Frame} {raw : Text}

theorem WellFormed.all_isAddressChar (h : f.WellFormed) : f.address.all isAddressChar = true := by
  have ha := h.isAddress_address
  simp only [isAddress, Bool.and_eq_true] at ha
  exact ha.2

/-- The line without what ends it. -/
def line (f : Frame) : Text := f.opening.char :: f.address ++ ',' :: f.payload

theorem toText_eq_line_append (f : Frame) :
    f.toText = f.line ++ Terminator.endText f.terminator := rfl

theorem WellFormed.all_isPrintable_line (h : f.WellFormed) : f.line.all isPrintable = true := by
  have ho : isPrintable f.opening.char = true := by cases f.opening <;> rfl
  have ha := all_mono (fun _ => isPrintable_of_isAddressChar) h.all_isAddressChar
  simp [line, ho, ha, h.isPrintable_payload, show isPrintable ',' = true from rfl]

/-- Only a terminator is cut off a line. -/
theorem dropTerminator_toText (h : f.WellFormed) : dropTerminator f.toText = f.line :=
  dropTerminator_append_endText (not_mem_of_all h.all_isPrintable_line rfl)
    (not_mem_of_all h.all_isPrintable_line rfl) f.terminator

/-! ### The payload -/

theorem WellFormed.isPrintable_of_mem_data (h : f.WellFormed) {c : Char} (hc : c ∈ f.data) :
    isPrintable c = true := by
  refine List.all_eq_true.mp h.isPrintable_payload c ?_
  rw [payload]
  split
  · exact hc
  · exact List.mem_append_left _ hc

theorem textBefore_payload (h : '*' ∉ f.data) : textBefore '*' f.payload = f.data := by
  rw [payload]
  split
  · exact textBefore_of_not_mem h
  · exact textBefore_append_cons h

theorem textAfter?_payload (h : '*' ∉ f.data) : textAfter? '*' f.payload = f.checksum := by
  rw [payload]
  split
  · next hc => rw [textAfter?_of_not_mem h, hc]
  · next hc => rw [textAfter?_append_cons h, hc]

/-- Cutting a payload at its first delimiter loses nothing of it. -/
theorem payload_eq (o : Opening) (address payload : Text) (t : Option Terminator) :
    Frame.payload ⟨o, address, textBefore '*' payload, textAfter? '*' payload, t⟩ = payload := by
  rw [Frame.payload]
  dsimp only
  split
  · next h => exact (eq_textBefore_of_textAfter? h).symm
  · next h => exact (eq_append_of_textAfter? h).symm

/-- In front of the checksum stand the opening character, the address and the fields. -/
theorem WellFormed.textBefore_line (h : f.WellFormed) :
    textBefore '*' f.line = f.opening.char :: f.address ++ ',' :: f.data := by
  have ho : '*' ≠ f.opening.char := by cases f.opening <;> decide
  have ha : '*' ∉ f.address := not_mem_of_all h.all_isAddressChar rfl
  have front : '*' ∉ f.opening.char :: f.address ++ [','] := by simp [ho, ha]
  have cut := textBefore_append (t := f.payload) front
  rw [textBefore_payload h.star_not_mem_data] at cut
  simpa [line] using cut

/-! ### Cutting lines -/

/-- What has to be found in a line, one thing behind the other, for the line to be cut. -/
theorem ofText?_cons_eq_some_iff {c : Char} {t : Text} : ofText? (c :: t) = some f ↔
    ∃ o body e, Opening.ofChar? c = some o ∧ isAddress (t.takeWhile isAddressChar) = true ∧
      t.dropWhile isAddressChar = ',' :: body ∧
      Terminator.ofEnd? (body.dropWhile isPrintable) = some e ∧
      f = ⟨o, t.takeWhile isAddressChar, textBefore '*' (body.takeWhile isPrintable),
        textAfter? '*' (body.takeWhile isPrintable), e⟩ := by
  constructor
  · intro h
    obtain ⟨o, ho, h⟩ := Option.bind_eq_some_iff.mp h
    obtain ⟨u, ha, h⟩ := Option.bind_eq_some_iff.mp h
    split at h
    · next body hb =>
      obtain ⟨e, he, h⟩ := Option.bind_eq_some_iff.mp h
      cases h
      exact ⟨o, body, e, ho, guard_eq_some_iff.mp ha, hb, he, rfl⟩
    · cases h
  · rintro ⟨o, body, e, ho, ha, hb, he, rfl⟩
    refine Option.bind_eq_some_iff.mpr ⟨o, ho, ?_⟩
    refine Option.bind_eq_some_iff.mpr ⟨(), guard_eq_some_iff.mpr ha, ?_⟩
    rw [hb]
    exact Option.bind_eq_some_iff.mpr ⟨e, he, rfl⟩

theorem toText_eq_cons (f : Frame) : f.toText = f.opening.char ::
    (f.address ++ ',' :: (f.payload ++ Terminator.endText f.terminator)) := by
  simp [toText]

/-- A well-formed frame is cut from the line that it makes. -/
theorem ofText?_toText (h : f.WellFormed) : ofText? f.toText = some f := by
  have ha := h.all_isAddressChar
  have hp := h.isPrintable_payload
  have comma (t : Text) : ∀ c ∈ (',' :: t).head?, isAddressChar c = false := by
    intro c hc
    cases hc
    rfl
  have stop := Terminator.not_isPrintable_of_mem_head? (t := f.terminator)
  rw [toText_eq_cons, ofText?_cons_eq_some_iff]
  refine ⟨f.opening, f.payload ++ Terminator.endText f.terminator, f.terminator,
    Opening.ofChar?_char _, ?_, dropWhile_append_stop ha (comma _), ?_, ?_⟩
  · rw [takeWhile_append_stop ha (comma _)]
    exact h.isAddress_address
  · rw [dropWhile_append_stop hp stop]
    exact Terminator.ofEnd?_endText _
  · rw [takeWhile_append_stop ha (comma _), takeWhile_append_stop hp stop,
      textBefore_payload h.star_not_mem_data, textAfter?_payload h.star_not_mem_data]

/-- A line is cut into a well-formed frame, which makes the line again. -/
theorem wellFormed_and_toText_of_ofText? (h : ofText? raw = some f) :
    f.WellFormed ∧ f.toText = raw := by
  cases raw with
  | nil => cases h
  | cons c t =>
    obtain ⟨o, body, e, ho, ha, hb, he, rfl⟩ := ofText?_cons_eq_some_iff.mp h
    refine ⟨⟨ha, not_mem_textBefore _ _, ?_⟩, ?_⟩
    · rw [payload_eq]
      exact List.all_takeWhile
    · -- each run was taken from the front of what it is put before
      rw [toText_eq_cons, payload_eq, ← Terminator.ofEnd?_eq_some_iff.mp he,
        List.takeWhile_append_dropWhile, ← hb, List.takeWhile_append_dropWhile,
        Opening.ofChar?_eq_some_iff.mp ho]

/-- The lines that hold a sentence are those of the well-formed frames, one line for each. -/
theorem ofText?_eq_some_iff : ofText? raw = some f ↔ f.WellFormed ∧ f.toText = raw := by
  constructor
  · exact wellFormed_and_toText_of_ofText?
  · rintro ⟨h, rfl⟩
    exact ofText?_toText h

/-- A terminator behind a line without one is the only thing that changes in its frame. -/
theorem ofText?_append_endText (hr : '\r' ∉ raw) (hn : '\n' ∉ raw) (t : Option Terminator) :
    ofText? (raw ++ Terminator.endText t) = (ofText? raw).map ({ · with terminator := t }) := by
  ext g
  simp only [Option.map_eq_some_iff, ofText?_eq_some_iff]
  constructor
  · rintro ⟨hg, e⟩
    have line_eq : g.line = raw := by
      rw [← dropTerminator_toText hg, e, dropTerminator_append_endText hr hn]
    have ht : g.terminator = t := by
      rw [toText_eq_line_append, line_eq, List.append_cancel_left_eq] at e
      exact Option.some.inj (by rw [← Terminator.ofEnd?_endText, e, Terminator.ofEnd?_endText])
    refine ⟨{ g with terminator := none }, ⟨⟨hg.1, hg.2, hg.3⟩, ?_⟩, by rw [← ht]⟩
    rw [toText_eq_line_append, ← line_eq]
    exact List.append_nil _
  · rintro ⟨f, ⟨hf, e⟩, rfl⟩
    have line_eq : f.line = raw := by
      rw [← dropTerminator_toText hf, e, dropTerminator_of_not_mem hr hn]
    exact ⟨⟨hf.1, hf.2, hf.3⟩, by rw [toText_eq_line_append, ← line_eq]; rfl⟩

end Frame

end Nmea
