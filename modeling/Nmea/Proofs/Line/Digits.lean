import Nmea.Proofs.Line.Validator

/-!
# The checksum of a valid line

A line with a `*` is valid if it is a sentence and if its own checksum stands behind the first `*`,
in front of the terminator (`Validator.isValid_iff_spaced`). Only spaces may stand around the
checksum, and where it is required not even those.
-/

namespace Nmea

variable {front rest s : Text} {f : Frame} {t u : Option Terminator}

/-! ### Cutting at the first star -/

/-- Where a line ends is seen from the first character that cannot be printed. -/
theorem Terminator.append_endText_inj {s' : Text} (hs : s.all isPrintable = true)
    (hs' : s'.all isPrintable = true) (h : s ++ endText t = s' ++ endText u) :
    s = s' ∧ t = u := by
  have cut := congrArg (List.takeWhile isPrintable) h
  rw [takeWhile_append_stop hs not_isPrintable_of_mem_head?,
    takeWhile_append_stop hs' not_isPrintable_of_mem_head?] at cut
  subst cut
  have ends := congrArg ofEnd? (List.append_cancel_left h)
  rw [ofEnd?_endText, ofEnd?_endText] at ends
  exact ⟨rfl, Option.some.inj ends⟩

theorem Terminator.star_not_mem_endText : '*' ∉ endText t := by
  match t with
  | none | some .crlf | some .lfcr | some .cr | some .lf => decide

namespace Frame

/-- What stands behind the first `*` of a line is the checksum of its frame and the terminator. -/
theorem WellFormed.checksum_of_toText (wf : f.WellFormed) (hf : '*' ∉ front)
    (h : f.toText = front ++ '*' :: rest) : ∃ found, f.checksum = some found ∧
      front.all isPrintable = true ∧ found.all isPrintable = true ∧
      rest = found ++ Terminator.endText f.terminator := by
  have hs : '*' ∉ f.opening.char :: f.address ++ ',' :: f.data := by
    rw [← wf.textBefore_line]
    exact not_mem_textBefore _ _
  have printable := wf.all_isPrintable_line
  cases hc : f.checksum with
  | none =>
    -- the payload is all data, so there is no `*` in the line
    have text : f.toText = (f.opening.char :: f.address ++ ',' :: f.data) ++
        Terminator.endText f.terminator := by rw [toText, payload, hc]
    have star : '*' ∈ f.toText := by simp [h]
    rw [text, List.mem_append] at star
    exact absurd star (not_or.mpr ⟨hs, Terminator.star_not_mem_endText⟩)
  | some found =>
    have text : f.toText = (f.opening.char :: f.address ++ ',' :: f.data) ++
        '*' :: (found ++ Terminator.endText f.terminator) := by simp [toText, payload, hc]
    obtain ⟨rfl, rfl⟩ := append_cons_inj hs hf (text.symm.trans h)
    have line_eq : f.line = (f.opening.char :: f.address ++ ',' :: f.data) ++ '*' :: found := by
      simp [line, payload, hc]
    rw [line_eq, List.all_append, List.all_cons, Bool.and_eq_true, Bool.and_eq_true] at printable
    exact ⟨found, rfl, printable.1, printable.2.2, rfl⟩

end Frame

namespace Validator

variable {v : Validator} {raw : Text}

/-- Valid lines are sentences. -/
theorem isSentence_of_isValid (h : (v.isValid raw).value = true) :
    (v.isSentence raw).value = true := by
  obtain ⟨f, hf⟩ := isValid_iff.mp h
  exact isSentence_iff.mpr ⟨f, (checkedFrame_eq_ok_iff.mp hf).1⟩

/-- Behind the first `*` of a valid line stands its checksum, perhaps among spaces. -/
theorem exists_spaced_of_isValid (h : (v.isValid (front ++ '*' :: rest)).value = true)
    (hf : '*' ∉ front) : front.all isPrintable = true ∧ ∃ left right t,
      rest = spaced left right (hexPair (xorBytes (front.drop 1))) ++ Terminator.endText t ∧
      (v.checksum = .required → left = 0 ∧ right = 0) := by
  obtain ⟨f, hc⟩ := isValid_iff.mp h
  obtain ⟨hframe, sum⟩ := checkedFrame_eq_ok_iff.mp hc
  obtain ⟨wf, text⟩ := wellFormed_of_frame hframe
  obtain ⟨found, hfound, hprint, -, rfl⟩ := wf.checksum_of_toText hf text
  have trimmed : trimSpaces found = hexPair (xorBytes (front.drop 1)) := by
    rw [sum found hfound, checksumOf_append_star hf]
  obtain ⟨left, right, e⟩ := exists_eq_spaced_trimSpaces found
  rw [trimmed] at e
  refine ⟨hprint, left, right, f.terminator, by rw [← e], fun required => ?_⟩
  have allowed := (frame_eq_ok_iff.mp hframe).2.2
  -- two digits leave no room for spaces
  rw [required, hfound, e] at allowed
  have two : (spaced left right (hexPair (xorBytes (front.drop 1)))).length = 2 := by
    simp only [ChecksumMode.allows, Option.any_some, isChecksum, Bool.and_eq_true,
      beq_iff_eq] at allowed
    exact allowed.1
  rw [length_spaced, length_hexPair] at two
  omega

/-- A sentence with its own checksum among spaces is valid. -/
theorem isValid_of_spaced {left right : Nat}
    (h : (v.isSentence (front ++ '*' :: (spaced left right (hexPair (xorBytes (front.drop 1))) ++
      Terminator.endText t))).value = true) (hf : '*' ∉ front) :
    (v.isValid (front ++ '*' :: (spaced left right (hexPair (xorBytes (front.drop 1))) ++
      Terminator.endText t))).value = true := by
  obtain ⟨f, hframe⟩ := isSentence_iff.mp h
  obtain ⟨wf, text⟩ := wellFormed_of_frame hframe
  obtain ⟨found, hfound, -, hprint, e⟩ := wf.checksum_of_toText hf text
  obtain ⟨rfl, -⟩ := Terminator.append_endText_inj
    (all_isPrintable_spaced_hexPair left right _) hprint e
  refine isValid_iff.mpr ⟨f, checkedFrame_eq_ok_iff.mpr ⟨hframe, fun found' hfound' => ?_⟩⟩
  rw [hfound] at hfound'
  cases hfound'
  have noSpace := not_mem_of_all (all_isHexDigit_hexPair (xorBytes (front.drop 1)))
    (rfl : isHexDigit ' ' = false)
  rw [trimSpaces_spaced noSpace (List.cons_ne_nil _ _), checksumOf_append_star hf]

/-- A line with a `*` is valid exactly if it is a sentence in which the checksum of the line stands
between the first `*` and the terminator, with nothing but spaces around it. There are no spaces
where the checksum is required. -/
theorem isValid_iff_spaced (v : Validator) (raw : Text) (star : '*' ∈ raw) :
    (v.isValid raw).value = true ↔ (v.isSentence raw).value = true ∧
      ∃ front left right t, '*' ∉ front ∧
        raw = front ++ '*' :: (spaced left right (checksumOf raw) ++ Terminator.endText t) ∧
        (v.checksum = .required → left = 0 ∧ right = 0) := by
  obtain ⟨front, rest, rfl, hf⟩ := List.eq_append_cons_of_mem star
  rw [checksumOf_append_star hf]
  constructor
  · intro h
    obtain ⟨-, left, right, t, rfl, alone⟩ := exists_spaced_of_isValid h hf
    exact ⟨isSentence_of_isValid h, front, left, right, t, hf, rfl, alone⟩
  · rintro ⟨h, front', left, right, t, hf', e, -⟩
    obtain ⟨rfl, rfl⟩ := append_cons_inj hf hf' e
    exact isValid_of_spaced h hf

/-- Spaces on both sides, where the checksum may be missing. -/
theorem isValid_iff_spaced_both :
    let raw := "!AIVDM,1,1,,A,13u,0*  51 \n\r".toList
    '*' ∈ raw ∧ (Validator.isSentence {} raw).value = true ∧
      raw = "!AIVDM,1,1,,A,13u,0".toList ++
        '*' :: (spaced 2 1 (checksumOf raw) ++ Terminator.endText (some .lfcr)) ∧
      (Validator.isValid {} raw).value = true := by
  intro raw
  have star : '*' ∈ raw := by decide
  have sentence : (Validator.isSentence {} raw).value = true := by decide +kernel
  have cut : raw = "!AIVDM,1,1,,A,13u,0".toList ++
      '*' :: (spaced 2 1 (checksumOf raw) ++ Terminator.endText (some .lfcr)) := by
    decide +kernel
  refine ⟨star, sentence, cut, (isValid_iff_spaced {} raw star).mpr ⟨sentence, ?_⟩⟩
  exact ⟨_, 2, 1, some .lfcr, by decide, cut, by decide⟩

/-- A checksum that does not stand alone between the first `*` and the end of a valid line. -/
theorem not_checksum_alone :
    let raw := "$GPGGA,data* 6A ".toList
    (Validator.isValid {} raw).value = true ∧ '*' ∈ raw ∧
      ¬ ∃ front t, '*' ∉ front ∧
        raw = front ++ '*' :: (checksumOf raw ++ Terminator.endText t) := by
  intro raw
  have sum : checksumOf raw = ['6', 'A'] := by decide +kernel
  refine ⟨by decide +kernel, by decide, ?_⟩
  rintro ⟨front, t, hf, e⟩
  have behind := congrArg (textAfter? '*') e
  rw [textAfter?_append_cons hf, sum] at behind
  -- a space stands where the first digit would have to be
  cases behind

end Validator

end Nmea
