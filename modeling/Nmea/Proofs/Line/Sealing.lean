import Nmea.Proofs.Line.Digits

/-!
# Sealing a line with its checksum

A text is sealed by its own checksum, which takes the place of its first `*` and of all that stands
behind it. Sealing again changes nothing, and a sealed text is a valid line exactly if what stands
in front of the checksum is a sentence without a terminator (`isSealed_withChecksum`). All of this
holds of any text, whether or not it is a sentence.
-/

namespace Nmea

variable {s front digits : Text} {f : Frame} {v : Validator}

/-! ### The text in front of the checksum -/

theorem textBefore_withChecksum (s : Text) : textBefore '*' (withChecksum s) = textBefore '*' s :=
  textBefore_append_cons (not_mem_textBefore '*' s)

theorem checksumOf_withChecksum (s : Text) : checksumOf (withChecksum s) = checksumOf s := by
  rw [checksumOf, textBefore_withChecksum, checksumOf]

theorem withChecksum_withChecksum (s : Text) : withChecksum (withChecksum s) = withChecksum s := by
  rw [withChecksum, textBefore_withChecksum, checksumOf_withChecksum, withChecksum]

theorem eq_textBefore_or_append (c : Char) (s : Text) :
    s = textBefore c s ∨ ∃ rest, s = textBefore c s ++ c :: rest := by
  cases h : textAfter? c s with
  | none => exact .inl (eq_textBefore_of_textAfter? h)
  | some rest => exact .inr ⟨rest, eq_append_of_textAfter? h⟩

/-! ### Frames with and without a checksum -/

namespace Frame

/-- A frame that ends behind its fields. -/
def bare (f : Frame) : Frame := { f with checksum := none, terminator := none }

/-- A frame that ends behind a checksum. -/
def sealed (f : Frame) (digits : Text) : Frame :=
  { f with checksum := some digits, terminator := none }

theorem toText_bare (f : Frame) :
    f.bare.toText = f.opening.char :: f.address ++ ',' :: f.data := by
  simp [bare, toText, payload, Terminator.endText]

theorem toText_sealed (f : Frame) (digits : Text) :
    (f.sealed digits).toText = f.bare.toText ++ '*' :: digits := by
  rw [toText_bare]
  simp [sealed, toText, payload, Terminator.endText]

theorem WellFormed.bare (h : f.WellFormed) : f.bare.WellFormed where
  isAddress_address := h.isAddress_address
  star_not_mem_data := h.star_not_mem_data
  isPrintable_payload := List.all_eq_true.mpr fun _ hc => h.isPrintable_of_mem_data hc

theorem WellFormed.sealed (h : f.WellFormed) (hd : digits.all isPrintable = true) :
    (f.sealed digits).WellFormed where
  isAddress_address := h.isAddress_address
  star_not_mem_data := h.star_not_mem_data
  isPrintable_payload := by
    have data : f.data.all isPrintable = true :=
      List.all_eq_true.mpr fun _ hc => h.isPrintable_of_mem_data hc
    show (f.data ++ '*' :: digits).all isPrintable = true
    rw [List.all_append, List.all_cons, data, hd]
    rfl

theorem WellFormed.star_not_mem_toText_bare (h : f.WellFormed) : '*' ∉ f.bare.toText := by
  rw [toText_bare, ← h.textBefore_line]
  exact not_mem_textBefore _ _

/-- What a line with a checksum and no terminator holds is a sealed frame, and the bare frame of the
same fields stands in front of the checksum. -/
theorem ofText?_append_star_iff (hf : '*' ∉ front) (hd : digits.all isPrintable = true) :
    ofText? (front ++ '*' :: digits) = some f ↔
      ofText? front = some f.bare ∧ f = f.sealed digits := by
  simp only [ofText?_eq_some_iff]
  constructor
  · rintro ⟨wf, text⟩
    obtain ⟨found, hfound, -, hp, ending⟩ := wf.checksum_of_toText hf text
    -- printable digits leave no room for a terminator
    rw [← List.append_nil digits] at ending
    obtain ⟨rfl, terminator⟩ := Terminator.append_endText_inj (t := none) hd hp ending
    have whole : f = f.sealed digits := by
      rw [sealed, ← hfound, terminator]
    rw [whole, toText_sealed] at text
    exact ⟨⟨wf.bare, (append_cons_inj wf.star_not_mem_toText_bare hf text).1⟩, whole⟩
  · rintro ⟨⟨wf, text⟩, whole⟩
    rw [whole, toText_sealed]
    exact ⟨wf.sealed hd, congrArg (· ++ '*' :: digits) text⟩

/-- The lines of bare frames are the sentences without a checksum and without a terminator. -/
theorem exists_ofText?_eq_bare_iff (hf : '*' ∉ front) : (∃ f, ofText? front = some (bare f)) ↔
    (Validator.isSentence {} front).value = true ∧ '\r' ∉ front ∧ '\n' ∉ front := by
  constructor
  · rintro ⟨f, h⟩
    obtain ⟨wf, text⟩ := ofText?_eq_some_iff.mp h
    have line : front = f.bare.line := by
      rw [← text, toText_eq_line_append]
      exact List.append_nil _
    have printable := wf.all_isPrintable_line
    rw [← line] at printable
    refine ⟨Validator.isSentence_iff.mpr ⟨_, Validator.frame_eq_ok_iff.mpr ⟨h, rfl, rfl⟩⟩, ?_⟩
    exact ⟨not_mem_of_all printable rfl, not_mem_of_all printable rfl⟩
  · rintro ⟨sentence, hr, hn⟩
    obtain ⟨f, found⟩ := Validator.isSentence_iff.mp sentence
    obtain ⟨h, -, -⟩ := Validator.frame_eq_ok_iff.mp found
    -- without a line break in front there is nothing to take a terminator from
    have terminator : f.terminator = none := by
      have same := ofText?_append_endText hr hn none
      rw [Terminator.endText, List.append_nil, h, Option.map_some, Option.some.injEq] at same
      rw [same]
    have checksum : f.checksum = none := by
      have text := (ofText?_eq_some_iff.mp h).2
      cases hc : f.checksum with
      | none => rfl
      | some digits => exact absurd (by simp [← text, toText, payload, hc]) hf
    refine ⟨f, ?_⟩
    rw [bare, ← checksum, ← terminator]
    exact h

end Frame

/-! ### Sealed texts -/

/-- A text with the right checksum behind it is valid where the line may end without a terminator,
if it is the line of a bare frame. -/
theorem Validator.isValid_append_star_iff (hf : '*' ∉ front) :
    (v.isValid (front ++ '*' :: hexPair (xorBytes (front.drop 1)))).value = true ↔
      v.lineEnding ≠ .required ∧ ∃ f, Frame.ofText? front = some (Frame.bare f) := by
  have digits := all_mono (fun _ => isPrintable_of_isHexDigit)
    (all_isHexDigit_hexPair (xorBytes (front.drop 1)))
  simp only [isValid_iff, checkedFrame_eq_ok_iff, frame_eq_ok_iff,
    Frame.ofText?_append_star_iff hf digits]
  constructor
  · rintro ⟨f, ⟨⟨h, whole⟩, ending, -⟩, -⟩
    refine ⟨?_, f, h⟩
    intro required
    rw [required, whole] at ending
    cases ending
  · rintro ⟨allowed, f, h⟩
    refine ⟨f.sealed (hexPair (xorBytes (front.drop 1))), ⟨⟨h, rfl⟩, ?_, ?_⟩, ?_⟩
    · cases e : v.lineEnding with
      | required => exact absurd e allowed
      | optional | forbidden => rfl
    · cases v.checksum with
      | required => exact isChecksum_hexPair _
      | optional => rfl
    · rintro found ⟨⟩
      rw [trimSpaces_hexPair, checksumOf_append_star hf]

/-- What is true of a text, of what stands in front of its first `*`, and of the text sealed with
its own checksum. -/
structure IsSealed (s front : Text) : Prop where
  /-- The first `*` of the text, if it has one, stands behind the front. -/
  cut : '*' ∉ front ∧ (s = front ∨ ∃ rest, s = front ++ '*' :: rest)
  /-- The checksum takes the place of the first `*` and of what stands behind it. -/
  withChecksum_eq : withChecksum s = front ++ '*' :: checksumOf s
  /-- The checksum is that of the bytes behind the first character. -/
  checksumOf_eq : checksumOf s = hexPair (xorBytes (front.drop 1))
  checksum_kept : checksumOf (withChecksum s) = checksumOf s
  idempotent : withChecksum (withChecksum s) = withChecksum s
  /-- Whether the checksum is required or not, a sealed text is valid exactly if its front is a
  sentence without a terminator and a line does not need one. -/
  isValid_iff : ∀ v : Validator, (v.isValid (withChecksum s)).value = true ↔
    v.lineEnding ≠ .required ∧ (Validator.isSentence {} front).value = true ∧
      '\r' ∉ front ∧ '\n' ∉ front

theorem isSealed_withChecksum (s : Text) : IsSealed s (textBefore '*' s) where
  cut := ⟨not_mem_textBefore '*' s, eq_textBefore_or_append '*' s⟩
  withChecksum_eq := rfl
  checksumOf_eq := rfl
  checksum_kept := checksumOf_withChecksum s
  idempotent := withChecksum_withChecksum s
  isValid_iff v := by
    have front := not_mem_textBefore '*' s
    rw [← Frame.exists_ofText?_eq_bare_iff front]
    exact Validator.isValid_append_star_iff front

/-- The first character has no part in the checksum, however many bytes it takes. -/
example : withChecksum "éE@*FF*\r\n".toList = "éE@*05".toList := by decide +kernel

end Nmea
