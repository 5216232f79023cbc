import Nmea.Proofs.Line.Validator

/-!
# The shape of a sentence

`Shape` writes down which lines a validator takes for sentences, without saying how they are cut:
an opening character, an address, a comma, a payload and the end of the line, one behind the other.
`Validator.isSentence_iff_shape` says that exactly these lines are taken, that each of them can be
divided in one way only, and that its frame holds the parts of that division.
-/

namespace Nmea

/-- A checksum digit, by the characters. -/
def IsDigitOfChecksum (c : Char) : Prop := ('0' ≤ c ∧ c ≤ '9') ∨ ('A' ≤ c ∧ c ≤ 'F')

/-- A line is `opening`, `address`, a comma, `payload` and `ending`, as a validator wants them. -/
structure Shape (v : Validator) (line : Text) (opening : Char) (address payload ending : Text) :
    Prop where
  /-- The line is its parts. -/
  line_eq : line = opening :: address ++ ',' :: payload ++ ending
  /-- A dollar sign or an exclamation mark opens the line. -/
  opening_eq : opening = '$' ∨ opening = '!'
  /-- The address has three to ten characters. -/
  address_length : 3 ≤ address.length ∧ address.length ≤ 10
  /-- The address is of upper-case letters and digits. -/
  address_char : ∀ c ∈ address, ('A' ≤ c ∧ c ≤ 'Z') ∨ ('0' ≤ c ∧ c ≤ '9')
  /-- The payload is of printable characters. -/
  payload_char : ∀ c ∈ payload, ' ' ≤ c ∧ c ≤ '~'
  /-- The line ends with one terminator or without. -/
  ending_eq : ending ∈ [[], ['\r'], ['\n'], ['\r', '\n'], ['\n', '\r']]
  /-- A required terminator is there. -/
  ending_required : v.lineEnding = .required → ending ≠ []
  /-- A forbidden terminator is not there. -/
  ending_forbidden : v.lineEnding = .forbidden → ending = []
  /-- A required checksum is there: exactly two digits behind the first `*`. -/
  checksum_required : v.checksum = .required →
    ∃ data a b, payload = data ++ ['*', a, b] ∧ '*' ∉ data ∧
      IsDigitOfChecksum a ∧ IsDigitOfChecksum b

/-! ### The policies by their texts -/

theorem isHexDigit_iff {c : Char} : isHexDigit c = true ↔ IsDigitOfChecksum c := by
  simp [isHexDigit, IsDigitOfChecksum, Char.isDigit, Char.le_def]

theorem Terminator.mem_endings_iff {s : Text} :
    s ∈ [[], ['\r'], ['\n'], ['\r', '\n'], ['\n', '\r']] ↔ ∃ t, s = Terminator.endText t := by
  constructor
  · intro h
    simp only [List.mem_cons, List.not_mem_nil, or_false] at h
    rcases h with rfl | rfl | rfl | rfl | rfl
    · exact ⟨none, rfl⟩
    · exact ⟨some .cr, rfl⟩
    · exact ⟨some .lf, rfl⟩
    · exact ⟨some .crlf, rfl⟩
    · exact ⟨some .lfcr, rfl⟩
  · rintro ⟨t, rfl⟩
    match t with
    | none | some .crlf | some .lfcr | some .cr | some .lf => decide

theorem Terminator.endText_eq_nil_iff {t : Option Terminator} :
    Terminator.endText t = [] ↔ t = none := by
  match t with
  | none | some .crlf | some .lfcr | some .cr | some .lf => decide

theorem LineEndingMode.allows_iff {mode : LineEndingMode} {t : Option Terminator} :
    mode.allows t = true ↔
      (mode = .required → Terminator.endText t ≠ []) ∧
      (mode = .forbidden → Terminator.endText t = []) := by
  rw [ne_eq, Terminator.endText_eq_nil_iff]
  cases mode <;> cases t <;> simp [allows]

/-- A checksum is two digits. -/
theorem isChecksum_iff {t : Text} :
    isChecksum t = true ↔ ∃ a b, t = [a, b] ∧ IsDigitOfChecksum a ∧ IsDigitOfChecksum b := by
  constructor
  · intro h
    match t with
    | [a, b] => exact ⟨a, b, rfl, by simpa [isChecksum, isHexDigit_iff] using h⟩
    | [] | [_] | _ :: _ :: _ :: _ => simp [isChecksum] at h
  · rintro ⟨a, b, rfl, ha, hb⟩
    simp [isChecksum, isHexDigit_iff.mpr ha, isHexDigit_iff.mpr hb]

/-- What a payload must end with if the checksum behind its first `*` is required. -/
theorem ChecksumMode.allows_textAfter?_iff {mode : ChecksumMode} {payload : Text} :
    mode.allows (textAfter? '*' payload) = true ↔
      (mode = .required → ∃ data a b, payload = data ++ ['*', a, b] ∧ '*' ∉ data ∧
        IsDigitOfChecksum a ∧ IsDigitOfChecksum b) := by
  cases mode with
  | optional => simp [allows]
  | required =>
    simp only [allows, Option.any_eq_true, forall_const]
    constructor
    · rintro ⟨found, hf, hc⟩
      obtain ⟨a, b, rfl, hab⟩ := isChecksum_iff.mp hc
      exact ⟨_, a, b, eq_append_of_textAfter? hf, not_mem_textBefore _ _, hab⟩
    · rintro ⟨data, a, b, rfl, hd, hab⟩
      exact ⟨[a, b], textAfter?_append_cons hd, isChecksum_iff.mpr ⟨a, b, rfl, hab⟩⟩

/-! ### Frames and shapes -/

theorem isAddress_iff {t : Text} : isAddress t = true ↔
    (3 ≤ t.length ∧ t.length ≤ 10) ∧
      ∀ c ∈ t, ('A' ≤ c ∧ c ≤ 'Z') ∨ ('0' ≤ c ∧ c ≤ '9') := by
  simp only [isAddress, Bool.and_eq_true, decide_eq_true_eq, List.all_eq_true, isAddressChar_iff]
  rfl

variable {v : Validator} {raw : Text} {f : Frame}

/-- The parts of a frame divide its line. -/
theorem shape_of_frame (h : v.frame raw = .ok f) :
    Shape v raw f.opening.char f.address f.payload (Terminator.endText f.terminator) := by
  obtain ⟨hf, hl, hc⟩ := Validator.frame_eq_ok_iff.mp h
  obtain ⟨wf, rfl⟩ := Frame.ofText?_eq_some_iff.mp hf
  obtain ⟨length, chars⟩ := isAddress_iff.mp wf.isAddress_address
  obtain ⟨required, forbidden⟩ := LineEndingMode.allows_iff.mp hl
  rw [← Frame.textAfter?_payload wf.star_not_mem_data] at hc
  exact {
    line_eq := rfl
    opening_eq := by cases f.opening <;> simp [Opening.char]
    address_length := length
    address_char := chars
    payload_char := fun c hm =>
      isPrintable_iff.mp (List.all_eq_true.mp wf.isPrintable_payload c hm)
    ending_eq := Terminator.mem_endings_iff.mpr ⟨_, rfl⟩
    ending_required := required
    ending_forbidden := forbidden
    checksum_required := ChecksumMode.allows_textAfter?_iff.mp hc }

/-- A division of a line is found by the validator, as a frame of the same parts. -/
theorem frame_of_shape {b : Char} {a p t : Text} (h : Shape v raw b a p t) :
    ∃ f, v.frame raw = .ok f ∧ f.opening.char = b ∧ f.address = a ∧ f.payload = p ∧
      f.data = textBefore '*' p ∧ f.checksum = textAfter? '*' p ∧
      Terminator.endText f.terminator = t := by
  obtain ⟨o, ho⟩ : ∃ o : Opening, b = o.char := by
    rcases h.opening_eq with rfl | rfl
    · exact ⟨.standard, rfl⟩
    · exact ⟨.encapsulation, rfl⟩
  obtain ⟨e, he⟩ := Terminator.mem_endings_iff.mp h.ending_eq
  let f : Frame := ⟨o, a, textBefore '*' p, textAfter? '*' p, e⟩
  have hp : f.payload = p := Frame.payload_eq ..
  have wf : f.WellFormed := {
    isAddress_address := isAddress_iff.mpr ⟨h.address_length, h.address_char⟩
    star_not_mem_data := not_mem_textBefore _ _
    isPrintable_payload := by
      rw [hp, List.all_eq_true]
      exact fun c hc => isPrintable_iff.mpr (h.payload_char c hc) }
  have text : f.toText = raw := by
    rw [h.line_eq, ho, he, ← hp]
    rfl
  have policy : v.lineEnding.allows f.terminator = true ∧ v.checksum.allows f.checksum = true :=
    ⟨LineEndingMode.allows_iff.mpr (he ▸ ⟨h.ending_required, h.ending_forbidden⟩),
      ChecksumMode.allows_textAfter?_iff.mpr h.checksum_required⟩
  exact ⟨f, Validator.frame_eq_ok_iff.mpr ⟨Frame.ofText?_eq_some_iff.mpr ⟨wf, text⟩, policy⟩,
    ho.symm, rfl, hp, rfl, rfl, he.symm⟩

namespace Validator

/-- The lines that are taken for sentences are those of the right shape. Each of them has one
division into parts, and the frame of the line holds these parts: the opening character, the
address, the payload cut at its first `*`, and the terminator. -/
theorem isSentence_iff_shape (v : Validator) (raw : Text) :
    ((v.isSentence raw).value = true ↔ ∃ b a p t, Shape v raw b a p t) ∧
    (∀ b a p t b' a' p' t', Shape v raw b a p t → Shape v raw b' a' p' t' →
      b = b' ∧ a = a' ∧ p = p' ∧ t = t') ∧
    ∀ b a p t, Shape v raw b a p t → ∃ f, v.frame raw = .ok f ∧ f.opening.char = b ∧
      f.address = a ∧ f.data = textBefore '*' p ∧ f.checksum = textAfter? '*' p ∧
      Terminator.endText f.terminator = t := by
  refine ⟨⟨?_, ?_⟩, ?_, ?_⟩
  · intro h
    obtain ⟨f, hf⟩ := isSentence_iff.mp h
    exact ⟨_, _, _, _, shape_of_frame hf⟩
  · rintro ⟨b, a, p, t, h⟩
    obtain ⟨f, hf, -⟩ := frame_of_shape h
    exact isSentence_iff.mpr ⟨f, hf⟩
  · intro b a p t b' a' p' t' h h'
    obtain ⟨f, hf, rfl, rfl, rfl, -, -, rfl⟩ := frame_of_shape h
    obtain ⟨g, hg, rfl, rfl, rfl, -, -, rfl⟩ := frame_of_shape h'
    cases hf.symm.trans hg
    exact ⟨rfl, rfl, rfl, rfl⟩
  · intro b a p t h
    obtain ⟨f, hf, hb, ha, -, hd, hc, ht⟩ := frame_of_shape h
    exact ⟨f, hf, hb, ha, hd, hc, ht⟩

/-- The longest address, under the strictest policies. -/
theorem isSentence_iff_shape_strict :
    let v : Validator := ⟨.required, .required⟩
    let line := "!PGRME12345,15.0,,M*1C\n\r".toList
    Shape v line '!' "PGRME12345".toList "15.0,,M*1C".toList ['\n', '\r'] ∧
      (v.isSentence line).value = true ∧
      ∃ f, v.frame line = .ok f ∧ f.opening.char = '!' ∧ f.address = "PGRME12345".toList ∧
        f.data = "15.0,,M".toList ∧ f.checksum = some "1C".toList ∧
        Terminator.endText f.terminator = ['\n', '\r'] := by
  intro v line
  have shape : Shape v line '!' "PGRME12345".toList "15.0,,M*1C".toList ['\n', '\r'] := {
    line_eq := by decide
    opening_eq := by decide
    address_length := by decide
    address_char := (isAddress_iff.mp (by decide)).2
    payload_char := fun c hc => isPrintable_iff.mp (List.all_eq_true.mp (by decide) c hc)
    ending_eq := by decide
    ending_required := by decide
    ending_forbidden := by decide
    checksum_required := fun _ =>
      ⟨"15.0,,M".toList, '1', 'C', by decide, by decide, .inl (by decide), .inr (by decide)⟩ }
  obtain ⟨iff, -, parts⟩ := isSentence_iff_shape v line
  exact ⟨shape, iff.mpr ⟨_, _, _, _, shape⟩, parts _ _ _ _ shape⟩

end Validator

end Nmea
