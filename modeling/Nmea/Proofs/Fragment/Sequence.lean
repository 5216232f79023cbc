import Nmea.Fragment
import Nmea.Proofs.Outcome

/-!
# Whole messages

Headers that count from one to the number of fragments make a whole message, whatever message id
and channel they share (`checkSequence_numbered`), and the payload of a whole message is that of
its fragments one behind the other (`reassemble_eq_ok`).
-/

namespace Nmea

/-! ### Numbered headers -/

/-- The header with an index in a message. -/
def FragmentHeader.numbered (count : Nat) (messageId channel : Option Text) (index : Nat) :
    FragmentHeader :=
  ⟨.ofNat count, .ofNat index, messageId, channel⟩

section Numbered

variable {count index start n : Nat} {messageId channel : Option Text}

theorem FragmentHeader.index_numbered_ne_zero (positive : index ≠ 0) (h : index ≤ 255) :
    (numbered count messageId channel index).index ≠ 0 := by
  have value : (UInt8.ofNat index).toNat = index := UInt8.toNat_ofNat_of_lt' (Nat.lt_succ_of_le h)
  intro e
  exact positive (value.symm.trans (congrArg UInt8.toNat e))

theorem FragmentHeader.index_numbered_le_count (le : index ≤ count) (h : count ≤ 255) :
    (numbered count messageId channel index).index ≤
      (numbered count messageId channel index).count :=
  (UInt8.ofNat_le_iff_le (Nat.lt_succ_of_le (Nat.le_trans le h)) (Nat.lt_succ_of_le h)).mpr le

theorem FragmentHeader.continues_numbered (h : index < 255) :
    (numbered count messageId channel index).continues
      (numbered count messageId channel (index + 1)) = true := by
  have next : UInt8.ofNat (index + 1) = UInt8.ofNat index + 1 := UInt8.ofNat_add index 1
  have later : UInt8.ofNat index < UInt8.ofNat (index + 1) := by
    rw [UInt8.ofNat_lt_iff_lt]
    · exact Nat.lt_succ_self index
    · exact Nat.lt_succ_of_lt h
    · exact Nat.succ_lt_succ h
  rw [next] at later
  simp [continues, numbered, next, later]

/-- Indices in a row, none of which is too great, make a chain. -/
theorem isChain_numbered (h : start + n ≤ 256) :
    isChain ((List.range' start n).map (.numbered count messageId channel)) = true := by
  induction n generalizing start with
  | zero => rfl
  | succ n ih =>
    cases n with
    | zero => rfl
    | succ n =>
      have rest : isChain ((List.range' (start + 1) (n + 1)).map
          (.numbered count messageId channel)) = true := ih (by omega)
      rw [List.range'_succ, List.map_cons] at rest
      rw [List.range'_succ, List.range'_succ, List.map_cons, List.map_cons, isChain, rest,
        FragmentHeader.continues_numbered (by omega), Bool.and_self]

theorem checkSequence_numbered (some_fragment : n ≠ 0) (h : n ≤ 255) :
    checkSequence ((List.range' 1 n).map (.numbered n messageId channel)) = .ok () := by
  have first : ((List.range' 1 n).map (FragmentHeader.numbered n messageId channel)).head? =
      some (.numbered n messageId channel 1) := by
    rw [List.head?_map, List.head?_range', if_neg some_fragment]
    rfl
  have last : ((List.range' 1 n).map (FragmentHeader.numbered n messageId channel)).getLast? =
      some (.numbered n messageId channel n) := by
    rw [List.getLast?_map, List.getLast?_range', if_neg some_fragment, Nat.add_sub_cancel_left]
    rfl
  have isFirst : (FragmentHeader.numbered n messageId channel 1).isFirst = true := rfl
  have isLast : (FragmentHeader.numbered n messageId channel n).isLast = true :=
    decide_eq_true rfl
  have count : (FragmentHeader.numbered n messageId channel 1).count.toNat = n :=
    UInt8.toNat_ofNat_of_lt' (Nat.lt_succ_of_le h)
  have chain : isChain ((List.range' 1 n).map (.numbered n messageId channel)) = true :=
    isChain_numbered (by omega)
  rw [checkSequence, first, last]
  simp [isFirst, isLast, count, chain]

end Numbered

/-! ### Joining -/

theorem reassemble_eq_ok {fragments : List Record} {headers : List FragmentHeader}
    {payloads : List Text} {last : Record} {fillBits : UInt8}
    (hh : fragments.mapM Record.fragmentHeader = .ok headers)
    (sequence : checkSequence headers = .ok ())
    (hp : fragments.mapM Record.payload = .ok payloads) (hl : fragments.getLast? = some last)
    (hf : last.fillBits = .ok fillBits) :
    reassemble fragments = .ok (payloads.flatten, fillBits) := by
  simp only [reassemble, hh, sequence, hp, hl, hf, bind, Except.bind, pure, Except.pure]

end Nmea
