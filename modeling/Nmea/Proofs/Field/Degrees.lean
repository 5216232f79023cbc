import Nmea.Field.Degrees
import Nmea.Proofs.Field.Integer
import Nmea.Proofs.Number.Order
import Nmea.Proofs.Number.Shortest
import Nmea.Proofs.Record.Value

/-!
# Degrees and minutes

A text is read as an angle exactly if it is written as one, with degrees that a word of 16 bits
holds and minutes that are not rounded up to sixty; behind the decimals of the minutes a power of
ten is let through as well (`parseDegrees_eq_some_iff`).
-/

namespace Nmea

variable {t degrees minutes : Text} {point : Option Text} {x : Double} {d : UInt16} {y : Rat}

/-! ### The form of an angle -/

/-- An angle as it ought to be written: digits of degrees, two digits of minutes, and perhaps
decimals behind a point. -/
structure WrittenAngle where
  degrees : Text
  minutes : Text
  /-- The digits behind the point, if there is a point. -/
  decimals : Option Text
  all_isDigit_degrees : degrees.all Char.isDigit = true
  all_isDigit_minutes : (minutes ++ decimals.getD []).all Char.isDigit = true
  length_minutes : minutes.length = 2

namespace WrittenAngle

def text (w : WrittenAngle) : Text := w.degrees ++ (w.minutes ++ w.decimals.elim [] ('.' :: ·))

/-- The minutes and their decimals with a power of ten behind them. -/
def numeral (w : WrittenAngle) (power : Option Power) : Numeral where
  sign := none
  whole := w.minutes
  fraction := w.decimals
  power := power
  all_isDigit := w.all_isDigit_minutes
  digits_ne_nil := by
    have := List.ne_nil_of_length_eq_add_one w.length_minutes
    simp [this]

/-- The number that the degrees and the minutes make. -/
def value (w : WrittenAngle) (power : Option Power) : Double :=
  .ofNat (digitsValue w.degrees) + .round false (w.numeral power).magnitude / .ofNat 60

variable (w : WrittenAngle) (power : Option Power)

theorem text_append : w.text ++ power.elim [] Power.text = w.degrees ++ (w.numeral power).text := by
  simp [text, numeral, Numeral.text, signText]

theorem all_isDigit_parts : w.minutes.all Char.isDigit = true ∧
    (w.decimals.getD []).all Char.isDigit = true := by
  have digits := w.all_isDigit_minutes
  rwa [List.all_append, Bool.and_eq_true] at digits

theorem isDigit_or_eq_of_mem_text {c : Char} (h : c ∈ w.text) : c.isDigit = true ∨ c = '.' := by
  have digits := w.all_isDigit_parts
  rcases List.mem_append.mp h with hc | hc
  · exact .inl (List.all_eq_true.mp w.all_isDigit_degrees c hc)
  rcases List.mem_append.mp hc with hc | hc
  · exact .inl (List.all_eq_true.mp digits.1 c hc)
  cases decimals : w.decimals with
  | none =>
    rw [decimals] at hc
    cases hc
  | some fraction =>
    rw [decimals] at hc digits
    rcases List.mem_cons.mp hc with rfl | hc
    · exact .inr rfl
    · exact .inl (List.all_eq_true.mp digits.2 c hc)

theorem point_not_mem : '.' ∉ w.degrees ++ w.minutes := by
  refine not_mem_of_all (p := Char.isDigit) ?_ rfl
  rw [List.all_append, w.all_isDigit_degrees, w.all_isDigit_parts.1, Bool.and_true]

theorem isFieldText_text_append : isFieldText (w.text ++ power.elim [] Power.text) = true := by
  rw [text_append, isFieldText_append, isFieldText_of_all_isDigit w.all_isDigit_degrees,
    Binary.isFieldText_numeral, Bool.and_true]

/-- A power of ten behind a point is a part of what stands behind the point. -/
theorem exists_point {power : Option Power} (h : w.decimals = none → power = none) :
    ∃ point : Option Text, (w.numeral power).text = w.minutes ++ point.elim [] ('.' :: ·) := by
  refine ⟨w.decimals.map (· ++ power.elim [] Power.text), ?_⟩
  cases decimals : w.decimals with
  | none => simp [numeral, Numeral.text, signText, decimals, h decimals]
  | some fraction => simp [numeral, Numeral.text, signText, decimals]

end WrittenAngle

/-! ### Parts -/

theorem length_textBefore_of_not_mem {c : Char} {s : Text} (h : c ∉ s) (point : Option Text) :
    (textBefore c (s ++ point.elim [] (c :: ·))).length = s.length := by
  match point with
  | none => rw [Option.elim, List.append_nil, textBefore_of_not_mem h]
  | some rest => rw [Option.elim, textBefore_append_cons h]

/-- A text with two characters in front of the point is cut into degrees and minutes. -/
theorem exists_parts (h : 2 ≤ pointIndex t) : ∃ (degrees minutes : Text) (point : Option Text),
    t = degrees ++ (minutes ++ point.elim [] ('.' :: ·)) ∧ minutes.length = 2 ∧
      '.' ∉ degrees ++ minutes := by
  refine ⟨(textBefore '.' t).take (pointIndex t - 2), (textBefore '.' t).drop (pointIndex t - 2),
    textAfter? '.' t, ?_, ?_, ?_⟩
  · rw [← List.append_assoc, List.take_append_drop]
    cases behind : textAfter? '.' t with
    | none => rw [Option.elim, List.append_nil, ← eq_textBefore_of_textAfter? behind]
    | some rest => exact eq_append_of_textAfter? behind
  · rw [List.length_drop, ← pointIndex]
    omega
  · rw [List.take_append_drop]
    exact not_mem_textBefore '.' t

/-- No degrees are as good as zero. -/
theorem readDegrees_eq_some_iff :
    (if degrees.isEmpty then some (0 : UInt16) else FieldValue.readAll degrees) = some d ↔
      degrees.all Char.isDigit = true ∧ digitsValue degrees ≤ 65535 ∧
        d.toNat = digitsValue degrees := by
  have word (n : Nat) : (FixedWidth.ofInt? n : Option UInt16) = some d ↔
      n ≤ 65535 ∧ d.toNat = n := by
    show (if (decide ((0 : Int) ≤ n) && decide ((n : Int) ≤ 65535)) = true then
      some (UInt16.ofNat n) else none) = some d ↔ _
    by_cases le : n ≤ 65535
    · have holds : (n : Int) ≤ 65535 := by omega
      have word : (UInt16.ofNat n).toNat = n := UInt16.toNat_ofNat_of_lt (Nat.lt_succ_of_le le)
      simp [le, holds, ← UInt16.toNat_inj, word, eq_comm]
    · have exceeds : ¬ (n : Int) ≤ 65535 := by omega
      simp [le, exceeds]
  match degrees with
  | [] => simp [← UInt16.toNat_inj, eq_comm]
  | c :: digits =>
    rw [List.isEmpty_cons, if_neg Bool.false_ne_true, FieldValue.readAll_eq_some_iff]
    refine (FixedWidth.read_eq_some_iff (Int.lt_irrefl 0)).trans ?_
    rw [word]
    simp

/-- What is less than sixty by no more than half of the last bit is rounded to sixty. -/
theorem le_and_lt_sixty_iff (hy : 0 ≤ y) :
    (Binary.le (.ofNat 0) (.round false y : Double) &&
      (Binary.round false y : Double).lt (.ofNat 60)) = true ↔ y < 60 - 2 ^ (-48 : Int) := by
  have sixty : (Binary.ofNat 60 : Double) = .finite false ⟨4633641066610819072, by decide⟩ := by
    decide +kernel
  have middle : Format.binary64.middle 4633641066610819072 = 60 - 2 ^ (-48 : Int) := by
    decide +kernel
  have nonneg : Binary.le (.ofNat 0) (.round false y : Double) = true :=
    Binary.le_round false ⟨0, by decide⟩ rfl
  rw [nonneg, Bool.true_and, sixty, Binary.round_lt_finite_iff (by decide) hy (by decide),
    if_pos (by decide), middle]

/-! ### Reading -/

/-- What is looked at when a text is read that is cut at its point. -/
theorem parseDegrees_append_eq_some_iff (two : minutes.length = 2)
    (before : '.' ∉ degrees ++ minutes) :
    parseDegrees (degrees ++ (minutes ++ point.elim [] ('.' :: ·))) = some x ↔
      (degrees ++ (minutes ++ point.elim [] ('.' :: ·))).all (fun c => c.toNat < 128) = true ∧
      degrees.all Char.isDigit = true ∧ digitsValue degrees ≤ 65535 ∧
      minutes.all Char.isDigit = true ∧
      ∃ m : Double, Denotes (minutes ++ point.elim [] ('.' :: ·)) m ∧
        (Binary.le (.ofNat 0) m && m.lt (.ofNat 60)) = true ∧
          x = .ofNat (digitsValue degrees) + m / .ofNat 60 := by
  have index : pointIndex (degrees ++ (minutes ++ point.elim [] ('.' :: ·))) =
      degrees.length + 2 := by
    rw [pointIndex, ← List.append_assoc, length_textBefore_of_not_mem before, List.length_append,
      two]
  have front : (minutes ++ point.elim [] ('.' :: ·)).take 2 = minutes := by
    rw [← two, List.take_left]
  have denotes (m : Double) : FieldValue.read (minutes ++ point.elim [] ('.' :: ·)) = some (m, []) ↔
      Denotes (minutes ++ point.elim [] ('.' :: ·)) m := readBinary_eq_some_iff
  simp only [parseDegrees, index, bind, pure, Option.bind_eq_some_iff, guard_eq_some_iff,
    ite_bind_eq_some_iff, exists_const, Nat.add_sub_cancel, List.splitAt_eq, List.take_left,
    List.drop_left, front, readDegrees_eq_some_iff, FieldValue.readAll_eq_some_iff, denotes,
    Nat.le_add_left, true_and, Option.some.injEq]
  constructor
  · rintro ⟨ascii, d, ⟨digits, le, value⟩, two_digits, m, hm, range, rfl⟩
    exact ⟨ascii, digits, le, two_digits, m, hm, range, by rw [value]⟩
  · rintro ⟨ascii, digits, le, two_digits, m, hm, range, rfl⟩
    have value : (UInt16.ofNat (digitsValue degrees)).toNat = digitsValue degrees :=
      UInt16.toNat_ofNat_of_lt (Nat.lt_succ_of_le le)
    exact ⟨ascii, _, ⟨digits, le, value⟩, two_digits, m, hm, range, by rw [value]⟩

theorem two_le_pointIndex_of_parseDegrees (h : parseDegrees t = some x) : 2 ≤ pointIndex t := by
  simp only [parseDegrees, bind, Option.bind_eq_some_iff, guard_eq_some_iff] at h
  obtain ⟨-, -, -, two_le, -⟩ := h
  exact two_le

/-- What is read as an angle is written as one, up to a power of ten at the end. -/
theorem exists_written_of_parseDegrees (h : parseDegrees t = some x) :
    ∃ (w : WrittenAngle) (power : Option Power), t = w.text ++ power.elim [] Power.text ∧
      (w.decimals = none → power = none) ∧ digitsValue w.degrees ≤ 65535 ∧
        (w.numeral power).magnitude < 60 - 2 ^ (-48 : Int) ∧ x = w.value power := by
  obtain ⟨degrees, minutes, point, rfl, two, before⟩ :=
    exists_parts (two_le_pointIndex_of_parseDegrees h)
  obtain ⟨-, digits, le, two_digits, m, hm, range, rfl⟩ :=
    (parseDegrees_append_eq_some_iff two before).mp h
  have stop : ∀ c ∈ (point.elim [] ('.' :: ·) : Text).head?, c.isDigit = false := by
    match point with
    | none => nofun
    | some _ => simp
  obtain ⟨⟨sign, whole, decimals, power, all_isDigit, some_digit⟩, rfl, rfl, behind, rfl⟩ :=
    hm.exists_numeral two_digits (List.ne_nil_of_length_eq_add_one two) stop
  let w : WrittenAngle := ⟨degrees, whole, decimals, digits, all_isDigit, two⟩
  refine ⟨w, power, ?_, ?_, le, (le_and_lt_sixty_iff (Numeral.magnitude_nonneg _)).mp range, rfl⟩
  · simp [w, WrittenAngle.text, behind]
  · -- what stands behind the digits begins with the point and not with a letter
    rintro rfl
    cases power with
    | none => rfl
    | some p =>
      have letter := congrArg List.head? behind
      cases point <;> cases hp : p.capital <;> simp [Power.text, hp] at letter

theorem WrittenAngle.parseDegrees_text_append (w : WrittenAngle) {power : Option Power}
    (behind : w.decimals = none → power = none) (le : digitsValue w.degrees ≤ 65535)
    (range : (w.numeral power).magnitude < 60 - 2 ^ (-48 : Int)) :
    parseDegrees (w.text ++ power.elim [] Power.text) = some (w.value power) := by
  have ascii := ascii_of_isFieldText (w.isFieldText_text_append power)
  have denotes := Denotes.numeral (f := .binary64) (w.numeral power)
  obtain ⟨point, text⟩ := w.exists_point behind
  rw [w.text_append, text] at ascii
  rw [text] at denotes
  rw [w.text_append, text, parseDegrees_append_eq_some_iff w.length_minutes w.point_not_mem]
  exact ⟨ascii, w.all_isDigit_degrees, le, w.all_isDigit_parts.1, _, denotes,
    (le_and_lt_sixty_iff (Numeral.magnitude_nonneg _)).mpr range, rfl⟩

theorem parseDegrees_eq_some_iff : parseDegrees t = some x ↔
    ∃ (w : WrittenAngle) (power : Option Power), t = w.text ++ power.elim [] Power.text ∧
      (w.decimals = none → power = none) ∧ digitsValue w.degrees ≤ 65535 ∧
        (w.numeral power).magnitude < 60 - 2 ^ (-48 : Int) ∧ x = w.value power := by
  constructor
  · exact exists_written_of_parseDegrees
  · rintro ⟨w, power, rfl, behind, le, range, rfl⟩
    exact w.parseDegrees_text_append behind le range

/-- Without the letter of a power of ten nothing but the form of an angle is read. -/
theorem parseDegrees_eq_some_iff_of_not_mem (small : 'e' ∉ t) (capital : 'E' ∉ t) :
    parseDegrees t = some x ↔ ∃ w : WrittenAngle, t = w.text ∧ digitsValue w.degrees ≤ 65535 ∧
      (w.numeral none).magnitude < 60 - 2 ^ (-48 : Int) ∧ x = w.value none := by
  rw [parseDegrees_eq_some_iff]
  constructor
  · rintro ⟨w, power, rfl, -, le, range, rfl⟩
    cases power with
    | none => exact ⟨w, by simp, le, range, rfl⟩
    | some p => cases hp : p.capital <;> simp [Power.text, hp] at small capital
  · rintro ⟨w, rfl, le, range, rfl⟩
    exact ⟨w, none, by simp, fun _ => rfl, le, range, rfl⟩

/-! ### Where texts are cut -/

/-- An angle is cut between its characters: the point, the end of the degrees and the end of the
two digits of minutes are at the bytes that are counted to. -/
structure IsCutInBytes (t : Text) : Prop where
  utf8Length_before : utf8Length (textBefore '.' t) = pointIndex t
  utf8Length_degrees : utf8Length (t.take (pointIndex t - 2)) = pointIndex t - 2
  utf8Length_minutes : utf8Length ((t.drop (pointIndex t - 2)).take 2) = 2

theorem isCutInBytes (ascii : t.all (fun c => c.toNat < 128) = true) (h : 2 ≤ pointIndex t) :
    IsCutInBytes t := by
  have length {s : Text} (hs : s ⊆ t) : utf8Length s = s.length :=
    utf8Length_of_ascii (List.all_eq_true.mpr fun c hc => List.all_eq_true.mp ascii c (hs hc))
  have short : pointIndex t ≤ t.length := length_textBefore_le '.' t
  refine ⟨length (List.takeWhile_subset _), ?_, ?_⟩
  · rw [length (List.take_subset _ _), List.length_take]
    omega
  · rw [length (fun c hc => List.drop_subset _ _ (List.take_subset _ _ hc)), List.length_take,
      List.length_drop]
    omega

/-- How a text is read as an angle: a text that is not ASCII, or has no room for the minutes in
front of its point, is not cut at all, and every other one is cut within its bounds; what is read
is written as an angle, but for a power of ten at the end. -/
structure IsReadAsAngle (t : Text) (reading : Option Double) : Prop where
  eq_none_of_not_ascii : t.all (fun c => c.toNat < 128) = false → reading = none
  eq_none_of_pointIndex_lt : pointIndex t < 2 → reading = none
  isCutInBytes : t.all (fun c => c.toNat < 128) = true → 2 ≤ pointIndex t → IsCutInBytes t
  eq_some_iff : ∀ x, reading = some x ↔
    ∃ (w : WrittenAngle) (power : Option Power), t = w.text ++ power.elim [] Power.text ∧
      (w.decimals = none → power = none) ∧ digitsValue w.degrees ≤ 65535 ∧
        (w.numeral power).magnitude < 60 - 2 ^ (-48 : Int) ∧ x = w.value power
  eq_some_iff_of_not_mem : 'e' ∉ t → 'E' ∉ t → ∀ x, reading = some x ↔
    ∃ w : WrittenAngle, t = w.text ∧ digitsValue w.degrees ≤ 65535 ∧
      (w.numeral none).magnitude < 60 - 2 ^ (-48 : Int) ∧ x = w.value none

/-- Every text is read as an angle in this way. -/
theorem isReadAsAngle_parseDegrees (t : Text) : IsReadAsAngle t (parseDegrees t) where
  eq_none_of_not_ascii h := by
    rw [parseDegrees, h]
    rfl
  eq_none_of_pointIndex_lt h := Option.eq_none_iff_forall_ne_some.mpr fun _ read =>
    absurd (two_le_pointIndex_of_parseDegrees read) (Nat.not_le.mpr h)
  isCutInBytes := isCutInBytes
  eq_some_iff _ := parseDegrees_eq_some_iff
  eq_some_iff_of_not_mem small capital _ := parseDegrees_eq_some_iff_of_not_mem small capital

/-- Minutes with a power of ten are read although an angle is not written with one. -/
theorem not_written_of_parseDegrees : ¬ ∀ t x, parseDegrees t = some x →
    ∃ w : WrittenAngle, t = w.text ∧ digitsValue w.degrees ≤ 65535 ∧
      (w.numeral none).magnitude < 60 := by
  intro written
  have read : (parseDegrees "4807.038e0".toList).isSome = true := by decide +kernel
  obtain ⟨x, hx⟩ := Option.isSome_iff_exists.mp read
  obtain ⟨w, text, -⟩ := written _ x hx
  have letter : 'e' ∈ w.text := by
    rw [← text]
    decide
  have none : ¬ ('e'.isDigit = true ∨ 'e' = '.') := by decide
  exact none (w.isDigit_or_eq_of_mem_text letter)

end Nmea
