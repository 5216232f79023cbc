import Nmea.Proofs.Line.Checksum
import Nmea.Proofs.Record.Reading

/-!
# Writing records

The line of a record that was read is the line it was read from, with its own checksum and without
a terminator (`Record.toText_eq_withChecksum`). The other way round, a record whose address and
fields can stand in a line is read from its own line, whatever terminator follows it
(`Record.parseWith_toText`).
-/

namespace Nmea

/-- There are no commas in a terminator. -/
theorem Terminator.count_comma_textBefore_endText (t : Option Terminator) :
    (textBefore '*' (Terminator.endText t)).count ',' = 0 := by
  match t with
  | none | some .crlf | some .lfcr | some .cr | some .lf => rfl

/-- A terminator adds no commas to those in front of the checksum. -/
theorem count_comma_textBefore_append_endText (s : Text) (t : Option Terminator) :
    (textBefore '*' (s ++ Terminator.endText t)).count ',' = (textBefore '*' s).count ',' := by
  by_cases h : '*' ∈ s
  · rw [textBefore_append_of_mem h]
  · rw [textBefore_append h, textBefore_of_not_mem h, List.count_append,
      Terminator.count_comma_textBefore_endText, Nat.add_zero]

namespace Record

variable {v : Validator} {raw : Text} {f : Frame} {r s : Record}

/-! ### Lines that were read -/

/-- The address and the fields of a record are joined as they stood in the frame. -/
theorem body_of_ofFrame? (h : ofFrame? f = some r) : r.body = f.address ++ ',' :: f.data := by
  obtain ⟨-, ha, hf⟩ := ofFrame?_eq_some_iff.mp h
  rw [body, ha, hf, flatMap_comma (List.splitOn_ne_nil ',' f.data), List.intercalate_splitOn]

theorem cons_body_of_ofFrame? (wf : f.WellFormed) (h : ofFrame? f = some r) :
    textBefore '*' f.line = r.opening.char :: r.body := by
  rw [wf.textBefore_line, body_of_ofFrame? h, (ofFrame?_eq_some_iff.mp h).1]
  rfl

/-- The fields of a record are counted by the commas of the frame. -/
theorem length_fields_of_ofFrame? (wf : f.WellFormed) (h : ofFrame? f = some r) :
    r.fields.length = (textBefore '*' f.line).count ',' := by
  obtain ⟨-, -, hf⟩ := ofFrame?_eq_some_iff.mp h
  have ho : f.opening.char ≠ ',' := by cases f.opening <;> decide
  have ha : f.address.count ',' = 0 :=
    List.count_eq_zero.mpr (not_mem_of_all wf.all_isAddressChar rfl)
  rw [hf, length_splitOn, wf.textBefore_line]
  simp [List.count_append, ho, ha]

/-- Writing a record that was read gives the line that it was read from, with its own checksum in
place of what followed the fields: the opening character, the address and the fields are those in
front of the checksum, one field for each comma there. -/
theorem toText_eq_withChecksum (h : (parseWith v raw).value = .ok r) :
    r.toText = withChecksum (dropTerminator raw) ∧
      textBefore '*' (dropTerminator raw) = r.opening.char :: (addressOf r.talker r.id ++
        r.fields.flatMap fun field => ',' :: field) ∧
      r.fields.length = (textBefore '*' raw).count ',' := by
  obtain ⟨f, hf, hr⟩ := parseWith_eq_ok_iff.mp h
  obtain ⟨wf, rfl⟩ := Validator.wellFormed_of_checkedFrame hf
  have front := cons_body_of_ofFrame? wf hr
  rw [Frame.dropTerminator_toText wf]
  refine ⟨?_, front, ?_⟩
  · rw [withChecksum, checksumOf, front]
    rfl
  · rw [Frame.toText_eq_line_append, count_comma_textBefore_append_endText]
    exact length_fields_of_ofFrame? wf hr

/-- Fields that are empty, the last ones too, of a line without a checksum. -/
theorem toText_eq_withChecksum_empty_fields :
    let raw := "!PGRME,15.0,,M,,\n\r".toList
    let r : Record :=
      ⟨.encapsulation, .named .P, "GRME".toList, ["15.0".toList, [], "M".toList, [], []]⟩
    (parseWith ⟨.optional, .required⟩ raw).value = .ok r ∧
      r.toText = withChecksum "!PGRME,15.0,,M,,".toList ∧ r.fields.length = raw.count ',' := by
  intro raw r
  have h : (parseWith ⟨.optional, .required⟩ raw).value = .ok r := by rfl
  obtain ⟨text, -, count⟩ := toText_eq_withChecksum h
  exact ⟨h, text, count⟩

/-! ### Well-formed records -/

/-- The parts of a record can stand where a line has them. -/
structure WellFormed (r : Record) : Prop where
  /-- The talker and the id make an address. -/
  isAddressPair_talker_id : isAddressPair r.talker r.id = true
  /-- There is a field. -/
  fields_ne_nil : r.fields ≠ []
  /-- The fields hold no delimiters, and nothing that cannot be printed. -/
  isFieldText_of_mem : ∀ field ∈ r.fields, isFieldText field = true

/-- What is read from a frame is well formed. -/
theorem wellFormed_of_ofFrame? (wf : f.WellFormed) (h : ofFrame? f = some r) : r.WellFormed := by
  obtain ⟨-, ha, hf⟩ := ofFrame?_eq_some_iff.mp h
  refine ⟨?_, ?_, ?_⟩
  · rw [isAddressPair_eq, ha]
    exact wf.isAddress_address
  · rw [hf]
    exact List.splitOn_ne_nil ',' f.data
  · intro field hm
    rw [hf] at hm
    rw [isFieldText, List.all_eq_true]
    intro c hc
    obtain ⟨hd, comma⟩ := mem_and_ne_of_mem_splitOn hm hc
    have star : c ≠ '*' := fun e => wf.star_not_mem_data (e ▸ hd)
    simp [isFieldChar, wf.isPrintable_of_mem_data hd, comma, star]

theorem wellFormed_of_parseWith (h : (parseWith v raw).value = .ok r) : r.WellFormed := by
  obtain ⟨f, hf, hr⟩ := parseWith_eq_ok_iff.mp h
  exact wellFormed_of_ofFrame? (Validator.wellFormed_of_checkedFrame hf).1 hr

/-! ### Lines of records -/

/-- The frame of the line of a record, with a terminator. -/
def toFrame (r : Record) (t : Option Terminator) : Frame where
  opening := r.opening
  address := addressOf r.talker r.id
  data := [','].intercalate r.fields
  checksum := some (hexPair (xorBytes r.body))
  terminator := t

variable {t : Option Terminator}

theorem WellFormed.body_eq (h : r.WellFormed) :
    r.body = addressOf r.talker r.id ++ ',' :: [','].intercalate r.fields := by
  rw [body, flatMap_comma h.fields_ne_nil]

theorem WellFormed.toText_toFrame (h : r.WellFormed) (t : Option Terminator) :
    (r.toFrame t).toText = r.toText ++ Terminator.endText t := by
  simp only [Frame.toText, Frame.payload, toFrame, toText]
  -- the checksum stays that of the body while the body is taken apart
  generalize hexPair (xorBytes r.body) = checksum
  rw [h.body_eq]
  simp

theorem WellFormed.isFieldChar_of_mem_data (h : r.WellFormed) {c : Char}
    (hc : c ∈ [','].intercalate r.fields) : c = ',' ∨ isFieldChar c = true := by
  rcases mem_intercalate_comma hc with rfl | ⟨field, hm, hc⟩
  · exact .inl rfl
  · exact .inr (List.all_eq_true.mp (h.isFieldText_of_mem field hm) c hc)

theorem WellFormed.wellFormed_toFrame (h : r.WellFormed) (t : Option Terminator) :
    (r.toFrame t).WellFormed where
  isAddress_address := by
    have ha := h.isAddressPair_talker_id
    rwa [isAddressPair_eq] at ha
  star_not_mem_data hm := by
    rcases h.isFieldChar_of_mem_data hm with e | e <;> cases e
  isPrintable_payload := by
    have hd : ∀ c ∈ (r.toFrame t).data, isPrintable c = true := by
      intro c hc
      rcases h.isFieldChar_of_mem_data hc with rfl | hc
      · rfl
      · exact isPrintable_of_isFieldChar hc
    have hp := all_mono (fun _ => isPrintable_of_isHexDigit)
      (all_isHexDigit_hexPair (xorBytes r.body))
    show ((r.toFrame t).data ++ '*' :: hexPair (xorBytes r.body)).all isPrintable = true
    rw [List.all_append, List.all_eq_true.mpr hd, List.all_cons, hp]
    rfl

/-- The frame of a record holds the record. -/
theorem WellFormed.ofFrame?_toFrame (h : r.WellFormed) (t : Option Terminator) :
    ofFrame? (r.toFrame t) = some r := by
  refine ofFrame?_eq_some_iff.mpr ⟨rfl, rfl, ?_⟩
  have comma : ∀ field ∈ r.fields, ',' ∉ field := fun field hm =>
    comma_not_mem_of_isFieldText (h.isFieldText_of_mem field hm)
  exact (List.splitOn_intercalate ',' comma h.fields_ne_nil).symm

theorem WellFormed.star_not_mem_cons_body (h : r.WellFormed) : '*' ∉ r.opening.char :: r.body := by
  rw [← cons_body_of_ofFrame? (h.wellFormed_toFrame none) (h.ofFrame?_toFrame none)]
  exact not_mem_textBefore _ _

/-- Every policy on checksums allows the line of a record. -/
theorem WellFormed.checkedFrame_toText (h : r.WellFormed) (ht : v.lineEnding.allows t = true) :
    v.checkedFrame (r.toText ++ Terminator.endText t) = .ok (r.toFrame t) := by
  have wf := h.wellFormed_toFrame t
  have allowed : v.checksum.allows (r.toFrame t).checksum = true := by
    cases v.checksum with
    | optional => rfl
    | required => exact isChecksum_hexPair (xorBytes r.body)
  have sum : checksumOf (r.toFrame t).toText = hexPair (xorBytes r.body) := by
    have star (rest : Text) : checksumOf (r.opening.char :: r.body ++ '*' :: rest) =
        hexPair (xorBytes r.body) := checksumOf_append_star h.star_not_mem_cons_body
    rw [h.toText_toFrame]
    simpa [toText] using star (hexPair (xorBytes r.body) ++ Terminator.endText t)
  rw [← h.toText_toFrame t]
  refine Validator.checkedFrame_eq_ok_iff.mpr
    ⟨Validator.frame_eq_ok_iff.mpr ⟨Frame.ofText?_toText wf, ht, allowed⟩, ?_⟩
  intro found hf
  cases hf
  rw [trimSpaces_hexPair, sum]

/-- A well-formed record is read from its line, under every validator that allows what ends it. -/
theorem WellFormed.parseWith_toText (h : r.WellFormed) (ht : v.lineEnding.allows t = true) :
    (parseWith v (r.toText ++ Terminator.endText t)).value = .ok r :=
  parseWith_eq_ok_iff.mpr ⟨_, h.checkedFrame_toText ht, h.ofFrame?_toFrame t⟩

/-- Two well-formed records with one line are the same. -/
theorem WellFormed.eq_of_toText_eq (hr : r.WellFormed) (hs : s.WellFormed)
    (h : r.toText = s.toText) : r = s := by
  have e := hr.parseWith_toText (v := {}) (t := none) rfl
  rw [h, hs.parseWith_toText rfl] at e
  exact (Except.ok.inj e).symm

end Record

end Nmea
