import Nmea.Log
import Nmea.Proofs.Line.Checksum
import Nmea.Proofs.Line.Frame

/-!
# What validators accept

A validator accepts a line if the line can be cut into a frame that the policies allow, and if the
checksum is right where it has to be. What any validator accepts, the validator without policies
accepts too, with the same frame; and a terminator makes no difference to it.
-/

namespace Nmea.Validator

variable {v : Validator} {raw : Text} {f : Frame}

/-! ### Frames -/

/-- A frame is found if the line is cut into it and the policies allow it. -/
theorem frame_eq_ok_iff : v.frame raw = .ok f ↔
    Frame.ofText? raw = some f ∧ v.lineEnding.allows f.terminator = true ∧
      v.checksum.allows f.checksum = true := by
  rw [frame]
  cases Frame.ofText? raw with
  | none => simp
  | some g =>
    rw [Option.some.injEq, ← Bool.and_eq_true]
    dsimp only
    constructor
    · intro h
      split at h
      · next hp =>
        cases h
        exact ⟨rfl, hp⟩
      · cases h
    · rintro ⟨rfl, hp⟩
      exact if_pos hp

/-- A checked frame is one whose checksum, if there is one, is that of the line. -/
theorem checkedFrame_eq_ok_iff : v.checkedFrame raw = .ok f ↔
    v.frame raw = .ok f ∧ ∀ found ∈ f.checksum, trimSpaces found = checksumOf raw := by
  rw [checkedFrame]
  cases v.frame raw with
  | error why => simp
  | ok g =>
    rw [Except.ok.injEq]
    dsimp only
    constructor
    · intro h
      cases hc : g.checksum with
      | none =>
        rw [hc] at h
        cases h
        simp [hc]
      | some found =>
        rw [hc] at h
        dsimp only at h
        split at h
        · next ht =>
          cases h
          simp [hc, ht]
        · cases h
    · rintro ⟨rfl, h⟩
      split
      · rfl
      · next found hc => exact if_pos (h found hc)

theorem wellFormed_of_frame (h : v.frame raw = .ok f) : f.WellFormed ∧ f.toText = raw :=
  Frame.ofText?_eq_some_iff.mp (frame_eq_ok_iff.mp h).1

theorem wellFormed_of_checkedFrame (h : v.checkedFrame raw = .ok f) :
    f.WellFormed ∧ f.toText = raw :=
  wellFormed_of_frame (checkedFrame_eq_ok_iff.mp h).1

/-- The policies only turn lines away. -/
theorem frame_default (h : v.frame raw = .ok f) : frame {} raw = .ok f := by
  rw [frame_eq_ok_iff] at h ⊢
  exact ⟨h.1, rfl, rfl⟩

theorem checkedFrame_default (h : v.checkedFrame raw = .ok f) : checkedFrame {} raw = .ok f := by
  rw [checkedFrame_eq_ok_iff] at h ⊢
  exact ⟨frame_default h.1, h.2⟩

/-! ### Terminators -/

section Terminators

variable (hr : '\r' ∉ raw) (hn : '\n' ∉ raw) (t : Option Terminator)

include hr hn

theorem frame_append_endText_iff : frame {} (raw ++ Terminator.endText t) = .ok f ↔
    ∃ g, frame {} raw = .ok g ∧ { g with terminator := t } = f := by
  have default_iff {line : Text} {g : Frame} :
      frame {} line = .ok g ↔ Frame.ofText? line = some g := by
    rw [frame_eq_ok_iff]
    exact ⟨And.left, fun h => ⟨h, rfl, rfl⟩⟩
  simp only [default_iff, Frame.ofText?_append_endText hr hn, Option.map_eq_some_iff]

/-- A terminator behind a line without one only shows in the terminator of its frame. -/
theorem checkedFrame_append_endText_iff :
    checkedFrame {} (raw ++ Terminator.endText t) = .ok f ↔
      ∃ g, checkedFrame {} raw = .ok g ∧ { g with terminator := t } = f := by
  -- where the frame has a checksum, the terminator stands behind a `*`
  have same {g : Frame} (hg : frame {} raw = .ok g) {found : Text} (hf : found ∈ g.checksum) :
      checksumOf (raw ++ Terminator.endText t) = checksumOf raw := by
    obtain ⟨wf, rfl⟩ := wellFormed_of_frame hg
    have star : '*' ∈ g.toText := by
      rw [Frame.toText, Frame.payload, hf]
      simp
    rw [checksumOf, checksumOf, textBefore_append_of_mem star]
  simp only [checkedFrame_eq_ok_iff, frame_append_endText_iff hr hn]
  constructor
  · rintro ⟨⟨g, hg, rfl⟩, hc⟩
    refine ⟨g, ⟨hg, fun found hf => ?_⟩, rfl⟩
    rw [hc found hf, same hg hf]
  · rintro ⟨g, ⟨hg, hc⟩, rfl⟩
    refine ⟨⟨g, hg, rfl⟩, fun found hf => ?_⟩
    rw [hc found hf, same hg hf]

end Terminators

/-! ### Answers -/

@[simp] theorem value_report (x : Except Rejection Frame) :
    (v.report raw x).value = x.toOption := by
  cases x <;> rfl

theorem value_isSentence : (v.isSentence raw).value = (v.frame raw).toOption.isSome := by
  simp [isSentence]

theorem value_isValid : (v.isValid raw).value = (v.checkedFrame raw).toOption.isSome := by
  simp [isValid]

theorem isSentence_iff : (v.isSentence raw).value = true ↔ ∃ f, v.frame raw = .ok f := by
  rw [value_isSentence]
  cases v.frame raw <;> simp [Except.toOption]

theorem isValid_iff : (v.isValid raw).value = true ↔ ∃ f, v.checkedFrame raw = .ok f := by
  rw [value_isValid]
  cases v.checkedFrame raw <;> simp [Except.toOption]

/-! ### Answers to lines with terminators -/

section Terminators

variable (hr : '\r' ∉ raw) (hn : '\n' ∉ raw) (t : Option Terminator)

include hr hn

theorem value_isSentence_append_endText :
    (isSentence {} (raw ++ Terminator.endText t)).value = (isSentence {} raw).value := by
  rw [Bool.eq_iff_iff, isSentence_iff, isSentence_iff]
  simp only [frame_append_endText_iff hr hn]
  rw [exists_comm]
  simp

theorem value_isValid_append_endText :
    (isValid {} (raw ++ Terminator.endText t)).value = (isValid {} raw).value := by
  rw [Bool.eq_iff_iff, isValid_iff, isValid_iff]
  simp only [checkedFrame_append_endText_iff hr hn]
  rw [exists_comm]
  simp

end Terminators

end Nmea.Validator
