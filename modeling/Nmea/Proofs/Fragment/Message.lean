import Nmea.Kind.Builtin
import Nmea.Proofs.Fragment.Header
import Nmea.Proofs.Fragment.Sequence
import Nmea.Proofs.Kind.Sentence

/-!
# Sending a payload

A payload that is sent in fragments, each written into a blank sentence of its own, arrives whole:
the lines are read again and joined to the payload with the fill bits of its last fragment
(`Kind.receive_of_send`).
-/

namespace Nmea

/-- A part of a payload, its fill bits, and the end of the line that carries it. -/
structure Chunk where
  payload : Text
  fillBits : UInt8
  ending : Option Terminator

variable {messageId channel : Option Text} {chunks : List Chunk}

theorem isFieldText_getD {o : Option Text} (h : ∀ t ∈ o, t ≠ [] ∧ isFieldText t = true) :
    isFieldText (o.getD []) = true :=
  isFieldText_getD_iff.mpr fun t ht => (h t ht).2

/-! ### Joining fragments -/

section Joining

variable {record : Chunk × Nat → Record}
  (carries : ∀ part ∈ chunks.zipIdx 1, (record part).Carries
    (.numbered chunks.length messageId channel part.2) part.1.payload part.1.fillBits)

include carries

/-- The headers are read as they were written. -/
theorem mapM_fragmentHeader_of_carries (hm : ∀ t ∈ messageId, t ≠ []) (hc : ∀ t ∈ channel, t ≠ [])
    (length : chunks.length ≤ 255) :
    ((chunks.zipIdx 1).map record).mapM Record.fragmentHeader =
      .ok ((List.range' 1 chunks.length).map (.numbered chunks.length messageId channel)) := by
  have header : ∀ part ∈ chunks.zipIdx 1, (record part).fragmentHeader =
      .ok (.numbered chunks.length messageId channel part.2) := by
    intro part hpart
    have least := List.le_snd_of_mem_zipIdx hpart
    have greatest := List.snd_lt_of_mem_zipIdx hpart
    have h := (carries part hpart).fragmentHeader_eq
      (FragmentHeader.index_numbered_ne_zero (by omega) (by omega))
      (FragmentHeader.index_numbered_le_count (by omega) length)
    rwa [FragmentHeader.normalized_eq_self hm hc] at h
  rw [List.mapM_map, ← List.zipIdx_map_snd, List.map_map]
  exact mapM_eq_ok header

theorem mapM_payload_of_carries :
    ((chunks.zipIdx 1).map record).mapM Record.payload = .ok (chunks.map Chunk.payload) := by
  have payload : ∀ part ∈ chunks.zipIdx 1, (record part).payload = .ok part.1.payload :=
    fun part hpart => (carries part hpart).payload_eq
  have parts := congrArg (List.map Chunk.payload) (List.zipIdx_map_fst 1 chunks)
  rw [List.map_map] at parts
  rw [List.mapM_map, ← parts]
  exact mapM_eq_ok payload

/-- The last record has the fill bits of the last chunk. -/
theorem getLast?_of_carries (some_chunk : chunks ≠ []) :
    ∃ last, ((chunks.zipIdx 1).map record).getLast? = some last ∧
      last.fillBits = .ok (chunks.getLast some_chunk).fillBits := by
  have last : (chunks.zipIdx 1).getLast? = some (chunks.getLast some_chunk, chunks.length) := by
    rw [List.getLast?_zipIdx, List.getLast?_eq_some_getLast some_chunk, Option.map_some,
      Nat.add_sub_cancel_left]
  refine ⟨record (chunks.getLast some_chunk, chunks.length), ?_, ?_⟩
  · rw [List.getLast?_map, last, Option.map_some]
  · exact (carries _ (List.mem_of_getLast? last)).fillBits_eq

/-- Records that carry the chunks of a payload, numbered from one, are joined to the payload. -/
theorem reassemble_of_carries (hm : ∀ t ∈ messageId, t ≠ []) (hc : ∀ t ∈ channel, t ≠ [])
    (some_chunk : chunks ≠ []) (length : chunks.length ≤ 255) :
    reassemble ((chunks.zipIdx 1).map record) =
      .ok (chunks.flatMap Chunk.payload, (chunks.getLast some_chunk).fillBits) := by
  have headers := mapM_fragmentHeader_of_carries carries hm hc length
  have some_header : chunks.length ≠ 0 := fun e => some_chunk (List.length_eq_zero_iff.mp e)
  obtain ⟨last, hlast, fillBits⟩ := getLast?_of_carries carries some_chunk
  rw [reassemble_eq_ok headers (checkSequence_numbered some_header length)
    (mapM_payload_of_carries carries) hlast fillBits, List.flatMap_def]

end Joining

namespace Kind

/-! ### Sending and receiving -/

/-- The sentence of a talker that carries a fragment. -/
def sentenceOfFragment (k : Kind) (talker : Talker) (header : FragmentHeader) (chunk : Chunk) :
    Except Error Sentence :=
  let blank := (k.forTalker talker).value
  match (Edit.setFragment header chunk.payload chunk.fillBits).apply blank.record with
  | (.ok _, record) => .ok { blank with record }
  | (.error why, _) => .error why

/-- The lines of a payload in fragments, which are numbered from one. -/
def send (k : Kind) (talker : Talker) (messageId channel : Option Text) (chunks : List Chunk) :
    Except Error (List Text) :=
  (chunks.zipIdx 1).mapM fun (chunk, index) => do
    let header := FragmentHeader.numbered chunks.length messageId channel index
    let sentence ← k.sentenceOfFragment talker header chunk
    pure (sentence.toText ++ Terminator.endText chunk.ending)

/-- The payload of the lines of a message, and its fill bits. -/
def receive (k : Kind) (lines : List Text) : Except Error (Text × UInt8) := do
  let sentences ← lines.mapM fun line => (k.parse line).value
  reassemble (sentences.map Sentence.record)

variable {k : Kind} {talker : Talker} {header : FragmentHeader} {chunk : Chunk}

/-! ### One fragment -/

/-- The record of a sentence that carries a fragment. -/
def recordOfFragment (k : Kind) (talker : Talker) (header : FragmentHeader) (chunk : Chunk) :
    Record :=
  let blank := (k.forTalker talker).value.record
  { blank with fields := fragmentFields header chunk.payload chunk.fillBits ++ blank.fields.drop 6 }

theorem carries_recordOfFragment :
    (k.recordOfFragment talker header chunk).Carries header chunk.payload chunk.fillBits :=
  List.prefix_append _ _

theorem id_recordOfFragment : (k.recordOfFragment talker header chunk).id = k.id :=
  (k.sameLayout_forTalker talker).id_eq

section OneFragment

variable (talker header) (fieldCount : 6 ≤ k.fieldCount)
  (hm : isFieldText (header.messageId.getD []) = true)
  (hc : isFieldText (header.channel.getD []) = true)
  (hp : isFieldText chunk.payload = true)

include fieldCount hm hc hp

theorem apply_setFragment_forTalker :
    (Edit.setFragment header chunk.payload chunk.fillBits).apply
      (k.forTalker talker).value.record = (.ok (), k.recordOfFragment talker header chunk) := by
  refine Edit.apply_setFragment ?_ hm hc hp
  rw [count_forTalker]
  exact Nat.le_trans fieldCount (Nat.le_max_left _ _)

theorem sentenceOfFragment_eq_ok :
    k.sentenceOfFragment talker header chunk =
      .ok ⟨k, k.recordOfFragment talker header chunk⟩ := by
  unfold sentenceOfFragment
  dsimp only
  rw [apply_setFragment_forTalker talker header fieldCount hm hc hp]
  rfl

theorem wellFormed_recordOfFragment (address : isAddressPair talker k.id = true) :
    (k.recordOfFragment talker header chunk).WellFormed := by
  have h : ((Edit.setFragment header chunk.payload chunk.fillBits).apply
      (k.forTalker talker).value.record).2.WellFormed :=
    Edit.keeps_setFragment Edit.keeps_wellFormed_setField _ (wellFormed_forTalker address)
  rwa [apply_setFragment_forTalker talker header fieldCount hm hc hp] at h

end OneFragment

/-! ### All fragments -/

/-- The sentence of the fragment with an index in a message. -/
def sentenceInMessage (k : Kind) (talker : Talker) (messageId channel : Option Text) (count : Nat)
    (part : Chunk × Nat) : Sentence :=
  ⟨k, k.recordOfFragment talker (.numbered count messageId channel part.2) part.1⟩

/-- The line of the fragment with an index in a message. -/
def lineInMessage (k : Kind) (talker : Talker) (messageId channel : Option Text) (count : Nat)
    (part : Chunk × Nat) : Text :=
  (k.sentenceInMessage talker messageId channel count part).toText ++
    Terminator.endText part.1.ending

section AllFragments

variable (fieldCount : 6 ≤ k.fieldCount)
  (hm : ∀ t ∈ messageId, t ≠ [] ∧ isFieldText t = true)
  (hc : ∀ t ∈ channel, t ≠ [] ∧ isFieldText t = true)
  (hp : ∀ chunk ∈ chunks, isFieldText chunk.payload = true)

include fieldCount hm hc hp

theorem send_eq_ok : k.send talker messageId channel chunks =
    .ok ((chunks.zipIdx 1).map (k.lineInMessage talker messageId channel chunks.length)) := by
  refine mapM_eq_ok ?_
  intro part hpart
  have built := sentenceOfFragment_eq_ok talker (.numbered chunks.length messageId channel part.2)
    fieldCount (isFieldText_getD hm) (isFieldText_getD hc) (hp _ (List.fst_mem_of_mem_zipIdx hpart))
  dsimp only
  rw [built]
  rfl

/-- Each line of a message is read as the sentence that was sent. -/
theorem mapM_parse_of_send (address : isAddressPair talker k.id = true) :
    ((chunks.zipIdx 1).map (k.lineInMessage talker messageId channel chunks.length)).mapM
        (fun line => (k.parse line).value) =
      .ok ((chunks.zipIdx 1).map (k.sentenceInMessage talker messageId channel chunks.length)) := by
  rw [List.mapM_map]
  refine mapM_eq_ok ?_
  intro part hpart
  have wf := wellFormed_recordOfFragment talker
    (.numbered chunks.length messageId channel part.2) fieldCount (isFieldText_getD hm)
    (isFieldText_getD hc) (hp _ (List.fst_mem_of_mem_zipIdx hpart)) address
  exact value_parse_toText wf id_recordOfFragment part.1.ending

/-- What a kind with room for a fragment sends, it receives. -/
theorem receive_of_lines (address : isAddressPair talker k.id = true) (some_chunk : chunks ≠ [])
    (length : chunks.length ≤ 255) :
    k.receive ((chunks.zipIdx 1).map (k.lineInMessage talker messageId channel chunks.length)) =
      .ok (chunks.flatMap Chunk.payload, (chunks.getLast some_chunk).fillBits) := by
  rw [receive, mapM_parse_of_send fieldCount hm hc hp address]
  show reassemble (((chunks.zipIdx 1).map _).map Sentence.record) = _
  rw [List.map_map]
  exact reassemble_of_carries (fun _ _ => carries_recordOfFragment) (fun t ht => (hm t ht).1)
    (fun t ht => (hc t ht).1) some_chunk length

end AllFragments

/-- A payload in one to 255 chunks is sent by every talker in sentences of either AIS kind, with or
without a message id and a channel, one line for each chunk; the lines are received as the payload,
with the fill bits of the last chunk. -/
theorem receive_of_send (hk : k = vdm ∨ k = vdo) (talker : Talker)
    (hm : ∀ t ∈ messageId, t ≠ [] ∧ isFieldText t = true)
    (hc : ∀ t ∈ channel, t ≠ [] ∧ isFieldText t = true)
    (some_chunk : chunks ≠ []) (length : chunks.length ≤ 255)
    (hp : ∀ chunk ∈ chunks, isFieldText chunk.payload = true) :
    ∃ lines, k.send talker messageId channel chunks = .ok lines ∧
      lines.length = chunks.length ∧
      k.receive lines =
        .ok (chunks.flatMap Chunk.payload, (chunks.getLast some_chunk).fillBits) := by
  have room : 6 ≤ k.fieldCount := by rcases hk with rfl | rfl <;> decide
  have address : isAddressPair talker k.id = true := by
    rcases hk with rfl | rfl
    · exact isAddressPair_of_length (by decide) (by decide) talker
    · exact isAddressPair_of_length (by decide) (by decide) talker
  refine ⟨_, send_eq_ok room hm hc hp, ?_, ?_⟩
  · rw [List.length_map, List.length_zipIdx]
  · exact receive_of_lines room hm hc hp address some_chunk length

/-- Three chunks, the second of which is empty, without a message id and with three ways to end a
line. -/
theorem receive_of_send_three :
    let chunks : List Chunk :=
      [⟨"13u@Dt".toList, 0, some .crlf⟩, ⟨[], 6, none⟩, ⟨"002s0".toList, 2, some .lf⟩]
    ∃ lines, vdo.send (.named .AI) none (some "A".toList) chunks = .ok lines ∧
      lines.length = 3 ∧ vdo.receive lines = .ok ("13u@Dt002s0".toList, 2) := by
  intro chunks
  have channel : ∀ t ∈ some "A".toList, t ≠ [] ∧ isFieldText t = true := by decide
  have payloads : ∀ chunk ∈ chunks, isFieldText chunk.payload = true := by decide
  exact receive_of_send (.inr rfl) (.named .AI) (by simp) channel (List.cons_ne_nil _ _) (by decide)
    payloads

end Kind

end Nmea
