import Nmea.Proofs.Line.Digits

/-!
# Corrupted lines

A character of a valid line with a checksum that is taken for another one is always noticed, if it
stands between the opening character and the first `*` or is a digit of the checksum
(`Validator.isValid_set_eq_false`). The checksum itself only tells apart two lines that are cut at
the same `*`; that a new delimiter, a new terminator or a new space cannot make up for the wrong
checksum follows from what a valid line has behind its first `*`.
-/

namespace Nmea

variable {v w : Validator} {raw front rest s u : Text} {c d : Char} {i : Nat}

/-- The positions of a line that its checksum protects: those between the opening character and the
first `*`, and those of the digits behind it. -/
def isProtected (raw : Text) (i : Nat) : Bool :=
  let star := (textBefore '*' raw).length
  (0 < i && i < star) || (star < i && raw[i]?.any isHexDigit)

/-! ### Behind the first star -/

theorem filter_isHexDigit_endText (t : Option Terminator) :
    (Terminator.endText t).filter isHexDigit = [] := by
  match t with
  | none | some .crlf | some .lfcr | some .cr | some .lf => rfl

theorem filter_isHexDigit_spaced (left right : Nat) (b : UInt8) :
    (spaced left right (hexPair b)).filter isHexDigit = hexPair b := by
  have spaces (n : Nat) : (List.replicate n ' ').filter isHexDigit = [] := by
    rw [List.filter_replicate]
    rfl
  have digits : (hexPair b).filter isHexDigit = hexPair b :=
    List.filter_eq_self.mpr (List.all_eq_true.mp (all_isHexDigit_hexPair b))
  rw [spaced, List.filter_append, List.filter_append, spaces, digits, spaces]
  simp

namespace Validator

/-- The digits behind the first `*` of a valid line are those of its checksum. -/
theorem filter_isHexDigit_of_isValid (h : (v.isValid (front ++ '*' :: rest)).value = true)
    (hf : '*' ∉ front) : rest.filter isHexDigit = hexPair (xorBytes (front.drop 1)) := by
  obtain ⟨-, left, right, t, rfl, -⟩ := exists_spaced_of_isValid h hf
  rw [List.filter_append, filter_isHexDigit_spaced, filter_isHexDigit_endText, List.append_nil]

theorem star_not_mem_of_isValid (h : (v.isValid (front ++ '*' :: rest)).value = true)
    (hf : '*' ∉ front) : '*' ∉ rest := by
  obtain ⟨-, left, right, t, rfl, -⟩ := exists_spaced_of_isValid h hf
  have digits : '*' ∉ spaced left right (hexPair (xorBytes (front.drop 1))) := by
    have spaces (n : Nat) : '*' ∉ List.replicate n ' ' := fun h => by
      cases List.eq_of_mem_replicate h
    simp [spaced, spaces, not_mem_of_all (all_isHexDigit_hexPair _) (rfl : isHexDigit '*' = false)]
  rw [List.mem_append, not_or]
  exact ⟨digits, Terminator.star_not_mem_endText⟩

/-! ### Two lines that differ in one character -/

/-- Valid lines that are the same up to a character in front of the first `*` are the same. -/
theorem eq_of_isValid_of_front (hd : (v.isValid (s ++ d :: u)).value = true)
    (hc : (w.isValid (s ++ c :: u)).value = true) (hs : s ≠ []) (star : '*' ∉ s)
    (hd' : d ≠ '*') (hu : '*' ∈ u) : c = d := by
  obtain ⟨t, rest, rfl, ht⟩ := List.eq_append_cons_of_mem hu
  have cut (e : Char) : s ++ e :: (t ++ '*' :: rest) = (s ++ e :: t) ++ '*' :: rest := by simp
  have front {e : Char} (he : e ≠ '*') : '*' ∉ s ++ e :: t := by simp [star, ht, he.symm]
  by_cases hc' : c = '*'
  · -- the new `*` leaves the old one behind it
    subst hc'
    have := star_not_mem_of_isValid hc star
    simp at this
  · rw [cut] at hc hd
    have sum := (filter_isHexDigit_of_isValid hc (front hc')).symm.trans
      (filter_isHexDigit_of_isValid hd (front hd'))
    obtain ⟨o, s, rfl⟩ := List.exists_cons_of_ne_nil hs
    have printable {e : Char} (h : ((o :: s) ++ e :: t).all isPrintable = true) :
        isPrintable e = true := List.all_eq_true.mp h e (by simp)
    exact eq_of_xorBytes_append_cons
      (printable (exists_spaced_of_isValid hc (front hc')).1)
      (printable (exists_spaced_of_isValid hd (front hd')).1) (hexPair_inj sum)

/-- Valid lines that are the same up to a digit behind the first `*` are the same. -/
theorem eq_of_isValid_of_digit (hd : (v.isValid (s ++ d :: u)).value = true)
    (hc : (w.isValid (s ++ c :: u)).value = true) (star : '*' ∈ s)
    (digit : isHexDigit d = true) : c = d := by
  obtain ⟨front, t, rfl, hf⟩ := List.eq_append_cons_of_mem star
  have cut (e : Char) : (front ++ '*' :: t) ++ e :: u = front ++ '*' :: (t ++ e :: u) := by simp
  rw [cut] at hc hd
  have digits := (filter_isHexDigit_of_isValid hc hf).trans
    (filter_isHexDigit_of_isValid hd hf).symm
  rw [List.filter_append, List.filter_append, List.append_cancel_left_eq,
    List.filter_cons_of_pos digit] at digits
  by_cases hc' : isHexDigit c = true
  · rw [List.filter_cons_of_pos hc'] at digits
    exact (List.cons.inj digits).1
  · rw [List.filter_cons_of_neg hc'] at digits
    exact absurd digits.symm (List.cons_ne_self d _)

/-- Whatever character is put in place of another one where the checksum protects a valid line,
no validator takes the line for valid any more. -/
theorem isValid_set_eq_false (h : (v.isValid raw).value = true) (star : '*' ∈ raw)
    (hi : isProtected raw i = true) (hc : raw[i]? ≠ some c) (w : Validator) :
    (w.isValid (raw.set i c)).value = false := by
  simp only [isProtected, Bool.or_eq_true, Bool.and_eq_true, decide_eq_true_eq] at hi
  have length : i < raw.length := by
    rcases hi with ⟨-, inFront⟩ | ⟨-, digit⟩
    · exact Nat.lt_of_lt_of_le inFront (length_textBefore_le '*' raw)
    · by_cases hlt : i < raw.length
      · exact hlt
      · simp [List.getElem?_eq_none (Nat.not_lt.mp hlt)] at digit
  rw [List.getElem?_eq_getElem length] at hi hc
  have parts : ∃ s u, raw = s ++ raw[i] :: u ∧ s.length = i ∧ raw.set i c = s ++ c :: u :=
    List.exists_of_set length
  obtain ⟨s, u, e, rfl, hset⟩ := parts
  generalize raw[s.length] = d at e hi hc
  subst e
  rw [hset, Bool.eq_false_iff]
  intro hw
  have same : c = d := by
    rcases hi with ⟨positive, inFront⟩ | ⟨behind, digit⟩
    · obtain ⟨hs, hd⟩ := not_mem_of_lt_length_textBefore inFront
      have hu : '*' ∈ u := by simpa [hs, hd.symm] using star
      exact eq_of_isValid_of_front h hw (List.ne_nil_of_length_pos positive) hs hd hu
    · exact eq_of_isValid_of_digit h hw (mem_of_length_textBefore_lt behind) digit
  exact hc (congrArg some same.symm)

/-- A comma that ends the address early, so that the line is still a sentence, and a space in place
of a digit. -/
theorem isValid_set_eq_false_comma :
    let raw := "$IIMTW,17.8,C*1D\r\n".toList
    (Validator.isValid {} raw).value = true ∧ '*' ∈ raw ∧
      (isProtected raw 5 = true ∧ raw[5]? ≠ some ',') ∧
      raw.set 5 ',' = "$IIMT,,17.8,C*1D\r\n".toList ∧
      (Validator.isSentence {} (raw.set 5 ',')).value = true ∧
      (Validator.isValid ⟨.required, .required⟩ (raw.set 5 ',')).value = false ∧
      (isProtected raw 15 = true ∧ raw[15]? ≠ some ' ') ∧
      (Validator.isValid {} (raw.set 15 ' ')).value = false := by
  intro raw
  have valid : (Validator.isValid {} raw).value = true := by decide +kernel
  have star : '*' ∈ raw := by decide
  have comma : isProtected raw 5 = true ∧ raw[5]? ≠ some ',' := by decide
  have space : isProtected raw 15 = true ∧ raw[15]? ≠ some ' ' := by decide
  exact ⟨valid, star, comma, by decide, by decide +kernel,
    isValid_set_eq_false valid star comma.1 comma.2 ⟨.required, .required⟩, space,
    isValid_set_eq_false valid star space.1 space.2 {}⟩

end Validator

end Nmea
