import Mathlib.Data.List.DropRight
import Nmea.Decoder
import Nmea.Proofs.Fragment.Whole

/-!
# Messages in a log

Fragments wait until one arrives that is the last of its message, and all that wait are then joined.
So what waits are the fragments behind the last one that ended a message (`waiting_nil`). If there
are any when a message begins, they are joined with it and spoil it, so that a whole message is
reported exactly if nothing was left behind in front of it (`exists_report_of_isMessage`).
-/

namespace Nmea.Decoder

variable {pending records fragments : List Record} {before lines others after : List Text}
  {line payload : Text} {fillBits : UInt8} {r : Record}

/-! ### Fragments among lines -/

/-- The fragment on a line, if the line can be read and is one. -/
def fragment? (line : Text) : Option Record :=
  match (Registry.builtin.createFromText line).value with
  | .ok sentence => if sentence.kind = .vdm then some sentence.record else none
  | .error _     => none

/-- Another line changes nothing about what waits. -/
theorem step_of_none (h : fragment? line = none) : (step pending line).1 = pending := by
  rw [fragment?] at h
  rw [step]
  cases created : (Registry.builtin.createFromText line).value with
  | error why => rfl
  | ok sentence =>
    rw [created] at h
    by_cases vdm : sentence.kind = .vdm
    · simp [vdm] at h
    · simp only [if_neg vdm]

theorem step_of_some (h : fragment? line = some r) : step pending line =
    if endsMessage r then ([], [reportMessage (pending ++ [r])]) else (pending ++ [r], []) := by
  rw [fragment?] at h
  rw [step]
  cases created : (Registry.builtin.createFromText line).value with
  | error why =>
    rw [created] at h
    cases h
  | ok sentence =>
    rw [created] at h
    by_cases vdm : sentence.kind = .vdm
    · simp only [if_pos vdm, Option.some.injEq] at h ⊢
      rw [h]
    · simp [vdm] at h

/-! ### Fragments that wait -/

/-- The fragments that wait after some lines. -/
def waiting (pending : List Record) (lines : List Text) : List Record :=
  lines.foldl (fun pending line => (step pending line).1) pending

theorem waiting_append_singleton (pending : List Record) (lines : List Text) (line : Text) :
    waiting pending (lines ++ [line]) = (step (waiting pending lines) line).1 := by
  rw [waiting, List.foldl_append]
  rfl

theorem run_cons (pending : List Record) (line : Text) (lines : List Text) :
    run pending (line :: lines) = (step pending line).2 ++ run (step pending line).1 lines := rfl

theorem run_append (pending : List Record) (lines others : List Text) :
    run pending (lines ++ others) = run pending lines ++ run (waiting pending lines) others := by
  induction lines generalizing pending with
  | nil => rfl
  | cons line lines ih =>
    rw [List.cons_append, run_cons, run_cons, ih, List.append_assoc]
    rfl

/-- The fragments behind the last one that ends a message. -/
def unfinished (records : List Record) : List Record := records.rtakeWhile (!endsMessage ·)

theorem unfinished_append (h : ∀ r ∈ fragments, endsMessage r = false) :
    unfinished (records ++ fragments) = unfinished records ++ fragments := by
  have more : ∀ r ∈ fragments.reverse, (!endsMessage r) = true := by
    intro r hr
    rw [h r (List.mem_reverse.mp hr)]
    rfl
  rw [unfinished, unfinished, List.rtakeWhile, List.rtakeWhile, List.reverse_append,
    List.takeWhile_append_of_pos more, List.reverse_append, List.reverse_reverse]

/-- Nothing is left behind if the last fragment of all ends a message. -/
theorem unfinished_eq_nil_iff :
    unfinished records = [] ↔ ∀ r ∈ records.getLast?, endsMessage r = true := by
  rw [unfinished, List.rtakeWhile_eq_nil_iff]
  cases records using List.reverseRecOn <;> simp

theorem waiting_nil (lines : List Text) :
    waiting [] lines = unfinished (lines.filterMap fragment?) := by
  -- from the end, since the last fragment decides whether anything is left
  induction lines using List.reverseRecOn with
  | nil => rfl
  | append_singleton lines line ih =>
    rw [waiting_append_singleton, ih, List.filterMap_append]
    cases found : fragment? line with
    | none => rw [step_of_none found, List.filterMap_cons_none found, List.filterMap_nil,
        List.append_nil]
    | some r =>
      rw [step_of_some found, List.filterMap_cons_some found, List.filterMap_nil, unfinished,
        unfinished, List.rtakeWhile_concat]
      cases endsMessage r <;> rfl

/-! ### Whole messages -/

/-- The last fragment of a whole message is the only one that ends a message. -/
theorem endsMessage_getElem (whole : IsWhole fragments) {i : Nat} (hi : i < fragments.length) :
    endsMessage fragments[i] = decide (i + 1 = fragments.length) := by
  obtain ⟨header, hh, index, count⟩ := whole.exists_header hi
  rw [endsMessage, hh, ← index, ← count]
  exact decide_eq_decide.mpr UInt8.toNat_inj.symm

theorem endsMessage_of_isWhole (whole : IsWhole (fragments ++ [r])) :
    endsMessage r = true ∧ ∀ s ∈ fragments, endsMessage s = false := by
  constructor
  · have last := endsMessage_getElem whole (i := fragments.length) (by simp)
    simpa using last
  · intro s hs
    obtain ⟨i, hi, rfl⟩ := List.getElem_of_mem hs
    have earlier := endsMessage_getElem whole (i := i) (by simp; omega)
    rw [List.getElem_append_left hi] at earlier
    simpa [Nat.ne_of_lt hi] using earlier

/-- A whole message is none with other fragments in front of it, since its first fragment has one
place only. -/
theorem eq_nil_of_isWhole_append (whole : IsWhole fragments)
    (joined : IsWhole (records ++ fragments)) : records = [] := by
  have first : 0 < fragments.length := List.length_pos_of_ne_nil whole.ne_nil
  obtain ⟨header, alone, one, -⟩ := whole.exists_header first
  obtain ⟨header', behind, place, -⟩ := joined.exists_header (i := records.length) (by simp [first])
  rw [List.getElem_append_right (Nat.le_refl _)] at behind
  simp only [Nat.sub_self, alone, Except.ok.injEq] at behind
  rw [← behind, one] at place
  exact List.eq_nil_of_length_eq_zero (Nat.succ.inj place).symm

theorem exists_error_of_ne_nil (whole : IsWhole fragments) (h : records ≠ []) :
    ∃ why, reassemble (records ++ fragments) = .error why := by
  cases joined : reassemble (records ++ fragments) with
  | error why => exact ⟨why, rfl⟩
  | ok found => exact absurd (eq_nil_of_isWhole_append whole (isWhole_of_reassemble joined).1) h

/-! ### Reports of messages -/

/-- What is reported about a whole message. -/
def payloadReport (payload : Text) (fillBits : UInt8) : Text :=
  "VDM  payload ".toList ++ payload ++ " (".toList ++ FieldValue.write fillBits ++
    " fill bits)".toList

theorem reportMessage_of_ok (h : reassemble fragments = .ok (payload, fillBits)) :
    reportMessage fragments = payloadReport payload fillBits := by
  rw [reportMessage, h]
  rfl

theorem reportMessage_of_error {why : Error} (h : reassemble fragments = .error why) :
    reportMessage fragments = "VDM  ".toList ++ why.message := by
  rw [reportMessage, h]

theorem head?_message_ne (why : Error) : why.message.head? ≠ some 'p' := by
  cases why <;> exact nofun

/-- What is told about an error is never taken for a payload. -/
theorem message_ne_payloadReport (why : Error) (payload : Text) (fillBits : UInt8) :
    "VDM  ".toList ++ why.message ≠ payloadReport payload fillBits := by
  have parts : payloadReport payload fillBits = "VDM  ".toList ++ ("payload ".toList ++ payload ++
      " (".toList ++ FieldValue.write fillBits ++ " fill bits)".toList) := rfl
  rw [parts]
  intro same
  refine head?_message_ne why ?_
  rw [List.append_cancel_left same]
  rfl

/-- A whole message is reported with its payload exactly if nothing is joined in front of it. -/
theorem reportMessage_append_eq_iff (h : reassemble fragments = .ok (payload, fillBits)) :
    reportMessage (records ++ fragments) = payloadReport payload fillBits ↔ records = [] := by
  constructor
  · intro reported
    refine Classical.byContradiction fun some_left => ?_
    obtain ⟨why, fails⟩ := exists_error_of_ne_nil (isWhole_of_reassemble h).1 some_left
    rw [reportMessage_of_error fails] at reported
    exact message_ne_payloadReport why payload fillBits reported
  · rintro rfl
    exact reportMessage_of_ok h

/-! ### Messages on lines -/

/-- Lines that end with the last fragment of a message, with the other fragments of the message
among them and no others. -/
structure IsMessage (lines : List Text) (payload : Text) (fillBits : UInt8) : Prop where
  reassembled : reassemble (lines.filterMap fragment?) = .ok (payload, fillBits)
  ends : ∃ line ∈ lines.getLast?, (fragment? line).isSome

theorem transcript_eq (lines : List Text) :
    (transcript lines).1 = run [] lines ++ (transcript []).1 := by
  unfold transcript
  cases reply with
  | ok text => rfl
  | error why => exact (List.append_nil _).symm

/-- The last line of a message is reported with the fragments of the message and what was left behind
in front of them. Nothing is left behind of the message itself. -/
theorem IsMessage.run_append (message : IsMessage lines payload fillBits)
    (before after : List Text) : run [] (before ++ lines ++ after) =
      run [] (before ++ lines.dropLast) ++
        reportMessage (unfinished (before.filterMap fragment?) ++ lines.filterMap fragment?) ::
          run [] after := by
  obtain ⟨line, hl, ends⟩ := message.ends
  obtain ⟨earlier, rfl⟩ := List.getLast?_eq_some_iff.mp hl
  obtain ⟨r, hr⟩ := Option.isSome_iff_exists.mp ends
  have found : (earlier ++ [line]).filterMap fragment? = earlier.filterMap fragment? ++ [r] := by
    rw [List.filterMap_append, List.filterMap_cons_some hr, List.filterMap_nil]
  have whole := (isWhole_of_reassemble message.reassembled).1
  rw [found] at whole ⊢
  obtain ⟨last, others⟩ := endsMessage_of_isWhole whole
  -- no fragment of the message but the last one lets go of what waits
  have joined : waiting [] (before ++ earlier) ++ [r] =
      unfinished (before.filterMap fragment?) ++ (earlier.filterMap fragment? ++ [r]) := by
    rw [waiting_nil, List.filterMap_append, unfinished_append others, List.append_assoc]
  rw [List.dropLast_concat, ← List.append_assoc before, List.append_assoc _ [line],
    Decoder.run_append, List.singleton_append, run_cons, step_of_some hr, if_pos last, joined]
  rfl

/-- A whole message gives one report, behind those on the lines before its last one, whatever comes
after it. The report is the payload with its fill bits exactly if, of the fragments in front of the
message, the last one ended a message too. Otherwise what was left behind is joined with the
message, which fails, and the error is all that is reported of it. -/
theorem exists_report_of_isMessage (message : IsMessage lines payload fillBits)
    (before : List Text) :
    let left := unfinished (before.filterMap fragment?)
    ∃ report,
      (∀ after, (transcript (before ++ lines ++ after)).1 =
        run [] (before ++ lines.dropLast) ++ report :: (transcript after).1) ∧
      (report = payloadReport payload fillBits ↔
        ∀ r ∈ (before.filterMap fragment?).getLast?, endsMessage r = true) ∧
      (left ≠ [] → ∃ why, reassemble (left ++ lines.filterMap fragment?) = .error why ∧
        report = "VDM  ".toList ++ why.message) := by
  intro left
  refine ⟨reportMessage (left ++ lines.filterMap fragment?), ?_, ?_, ?_⟩
  · intro after
    rw [transcript_eq, transcript_eq after, message.run_append, List.append_assoc]
    rfl
  · rw [← unfinished_eq_nil_iff]
    exact reportMessage_append_eq_iff message.reassembled
  · intro some_left
    have whole := (isWhole_of_reassemble message.reassembled).1
    obtain ⟨why, fails⟩ := exists_error_of_ne_nil whole some_left
    exact ⟨why, fails, reportMessage_of_error fails⟩

/-- The last fragment of a message that did not arrive is thrown away with its error, and what comes
between the fragments of a message is only skipped. -/
theorem exists_report_of_isMessage_interrupted :
    let first := "!AIVDM,2,1,3,B,55P,0".toList
    let second := "!AIVDM,2,2,3,B,1@0,2".toList
    let lines := [first, "not a sentence".toList, second]
    IsMessage lines "55P1@0".toList 2 ∧
      payloadReport "55P1@0".toList 2 ∈ (transcript ([second] ++ lines ++ [])).1 := by
  intro first second lines
  have message : IsMessage lines "55P1@0".toList 2 :=
    ⟨eq_ok_of_toOption (by decide +kernel), second, rfl, by decide +kernel⟩
  obtain ⟨report, reported, iff, -⟩ := exists_report_of_isMessage message [second]
  have none_left : report = payloadReport "55P1@0".toList 2 := iff.mpr (by decide +kernel)
  refine ⟨message, ?_⟩
  rw [reported [], none_left]
  simp

/-- A first fragment that is left behind takes the whole message behind it along. -/
theorem not_reported_behind_first :
    let first :=
      "!AIVDM,2,1,3,B,55P5TL01VIaAL@7WKO@mBplU@<PDhh000000001S;AJ::4A80?4i@E53,0*3E".toList
    let single := "!AIVDM,1,1,,A,13u@Dt002s000000000000000000,0*60".toList
    let payload := "13u@Dt002s000000000000000000".toList
    IsMessage [single] payload 0 ∧ payloadReport payload 0 ∉ (transcript [first, single]).1 := by
  intro first single payload
  exact ⟨⟨eq_ok_of_toOption (by decide +kernel), single, rfl, by decide +kernel⟩,
    by decide +kernel⟩

end Nmea.Decoder
