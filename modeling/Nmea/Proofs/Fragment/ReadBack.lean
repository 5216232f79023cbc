import Nmea.Kind.Builtin
import Nmea.Proofs.Fragment.Header
import Nmea.Proofs.Kind.Sentence
import Nmea.Proofs.Record.Atomic

/-!
# Reading back a fragment

A fragment that was written into a sentence is read from it again, and from its line
(`Record.readsBackFragment`). Payload and fill bits come back as they were. The header comes back if
its index is one of those from one to its count, and with it a message id and a channel that have a
text; with any other index the header is written all the same, but cannot be read.
-/

namespace Nmea

variable {r s : Record} {header : FragmentHeader} {payload : Text} {fillBits : UInt8}

namespace Record

/-! ### Records that hold a fragment -/

/-- What is read of a fragment from the record that it was written into. -/
structure HoldsFragment (r : Record) (header : FragmentHeader) (payload : Text)
    (fillBits : UInt8) : Prop where
  payload_eq : r.payload = .ok payload
  fillBits_eq : r.fillBits = .ok fillBits
  /-- The index has to be one of those from one to the count. -/
  fragmentHeader_eq_ok_iff : r.fragmentHeader = .ok header.normalized ↔
    1 ≤ header.index ∧ header.index ≤ header.count
  fragmentHeader_eq_error : ¬ (1 ≤ header.index ∧ header.index ≤ header.count) →
    r.fragmentHeader = .error (.invalidFieldValue 1
      (FieldValue.write header.index ++ " of ".toList ++ FieldValue.write header.count))

theorem one_le_iff {n : UInt8} : 1 ≤ n ↔ n ≠ 0 := by
  rw [UInt8.le_iff_toNat_le, ne_eq, ← UInt8.toNat_inj]
  exact Nat.one_le_iff_ne_zero

theorem Carries.holdsFragment (h : r.Carries header payload fillBits) :
    r.HoldsFragment header payload fillBits where
  payload_eq := h.payload_eq
  fillBits_eq := h.fillBits_eq
  fragmentHeader_eq_ok_iff := by
    rw [h.fragmentHeader_eq_ite, one_le_iff]
    split
    · next inside => exact iff_of_true rfl inside
    · next outside => exact iff_of_false nofun outside
  fragmentHeader_eq_error outside := by
    rw [one_le_iff] at outside
    rw [h.fragmentHeader_eq_ite, if_neg outside]

/-! ### Writing and reading -/

/-- What a fragment does to a record that has room for it. -/
structure ReadsBackFragment (r : Record) (header : FragmentHeader) (payload : Text)
    (fillBits : UInt8) : Prop where
  /-- A fragment is written if the framing is safe from all its texts. -/
  ok_iff : (∃ s, (Edit.setFragment header payload fillBits).apply r = (.ok (), s)) ↔
    (∀ t ∈ header.messageId, IsFramingSafe t) ∧ (∀ t ∈ header.channel, IsFramingSafe t) ∧
      IsFramingSafe payload
  holds : ∀ s, (Edit.setFragment header payload fillBits).apply r = (.ok (), s) →
    s.HoldsFragment header payload fillBits
  /-- The fields behind those of the fragment are as they were. -/
  sameBut : ∀ s, (Edit.setFragment header payload fillBits).apply r = (.ok (), s) →
    r.SameBut [0, 1, 2, 3, 4, 5] s
  /-- The same record, and the same fragment in it, is read from the line by each kind that has the
  id of the record. -/
  parse_toText : ∀ s, (Edit.setFragment header payload fillBits).apply r = (.ok (), s) →
    ∀ k : Kind, r.id = k.id → ∀ ending,
      (k.parse ((Sentence.mk k s).toText ++ Terminator.endText ending)).value = .ok ⟨k, s⟩

theorem sameBut_of_fields_eq (room : 6 ≤ r.count) (header : FragmentHeader) (payload : Text)
    (fillBits : UInt8) : r.SameBut [0, 1, 2, 3, 4, 5]
      { r with fields := fragmentFields header payload fillBits ++ r.fields.drop 6 } where
  opening_eq := rfl
  talker_eq := rfl
  id_eq := rfl
  count_eq := by
    simp only [count, List.length_append, List.length_drop, fragmentFields, List.length_cons,
      List.length_nil] at room ⊢
    omega
  field_eq index outside := by
    have behind : 6 ≤ index := by
      simp only [List.mem_cons, List.not_mem_nil, or_false, not_or] at outside
      omega
    have length : (fragmentFields header payload fillBits).length = 6 := rfl
    rw [List.getElem?_append_right (by omega), List.getElem?_drop, length,
      Nat.add_sub_cancel' behind]

/-- A fragment is written into every well-formed record with room for it, whatever the header is,
exactly if its texts can stand in fields. It is then read from the record, and from the line of the
record. -/
theorem readsBackFragment (wf : r.WellFormed) (room : 6 ≤ r.count) (header : FragmentHeader)
    (payload : Text) (fillBits : UInt8) : r.ReadsBackFragment header payload fillBits where
  ok_iff := by
    simp only [← isFieldText_iff, ← isFieldText_getD_iff, Edit.apply_setFragment_eq_ok_iff room,
      exists_and_left, exists_eq, and_true]
  holds s h := by
    obtain ⟨-, -, -, rfl⟩ := (Edit.apply_setFragment_eq_ok_iff room).mp h
    exact Carries.holdsFragment (List.prefix_append _ _)
  sameBut s h := by
    obtain ⟨-, -, -, rfl⟩ := (Edit.apply_setFragment_eq_ok_iff room).mp h
    exact sameBut_of_fields_eq room header payload fillBits
  parse_toText s h k id ending := by
    have kept : ((Edit.setFragment header payload fillBits).apply r).2.WellFormed :=
      Edit.keeps_setFragment Edit.keeps_wellFormed_setField r wf
    obtain ⟨-, -, -, e⟩ := (Edit.apply_setFragment_eq_ok_iff room).mp h
    rw [h] at kept
    exact Kind.value_parse_toText kept (by rw [e]; exact id) ending

/-- The last of two fragments in a sentence with more fields than it needs, with a message id that
has no text. -/
theorem readsBackFragment_unnumbered :
    let r : Record := ⟨.encapsulation, .named .AI, "VDO".toList,
      ["1".toList, "1".toList, ['7'], ['A'], "13u@Dt".toList, "0".toList, [], "x y".toList]⟩
    let header : FragmentHeader := ⟨2, 2, some [], some ['B']⟩
    let s : Record := { r with fields :=
      ["2".toList, "2".toList, [], ['B'], "55P".toList, "4".toList, [], "x y".toList] }
    (Kind.vdo.parse "!AIVDO,1,1,7,A,13u@Dt,0,,x y".toList).value = .ok ⟨.vdo, r⟩ ∧
      r.WellFormed ∧ 6 ≤ r.count ∧
      (Edit.setFragment header "55P".toList 4).apply r = (.ok (), s) ∧
      s.fragmentHeader = .ok ⟨2, 2, none, some ['B']⟩ ∧ s.payload = .ok "55P".toList ∧
      (Kind.vdo.parse (s.toText ++ ['\r'])).value = .ok ⟨.vdo, s⟩ := by
  intro r header s
  have read : (parse "!AIVDO,1,1,7,A,13u@Dt,0,,x y".toList).value = .ok r := by rfl
  have wf : r.WellFormed := wellFormed_of_parseWith read
  have written : (Edit.setFragment header "55P".toList 4).apply r = (.ok (), s) := by decide +kernel
  have back := readsBackFragment wf (by decide) header "55P".toList 4
  have holds := back.holds s written
  exact ⟨Kind.value_parse read rfl, wf, by decide, written,
    holds.fragmentHeader_eq_ok_iff.mpr (by decide), holds.payload_eq,
    back.parse_toText s written .vdo rfl (some .cr)⟩

/-- A third fragment of two. -/
example : (Edit.setFragment ⟨2, 3, none, none⟩ [] 0).apply
    (blank .encapsulation (.named .AI) "VDM".toList 6) |>.2.fragmentHeader =
      .error (.invalidFieldValue 1 "3 of 2".toList) := by decide +kernel

end Record

end Nmea
