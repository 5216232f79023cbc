import Mathlib.Data.List.Chain
import Mathlib.Data.List.Forall2
import Nmea.Proofs.Fragment.Sequence

/-!
# Fragments that make a whole message

The checks on a list of headers look at its two ends, at its length and at neighbours, and between
neighbours they would let an index be left out. Together they leave no gap: the indices ascend from
one to the number of headers and there are just as many, so they are all of them, one after the
other (`checkSequence_eq_ok_iff`). What is joined is therefore whole (`isWhole_of_reassemble`).
-/

namespace Nmea

/-! ### One header behind another -/

namespace FragmentHeader

/-- The same channel or the same message id, where none is the same as none. -/
def Linked (h k : FragmentHeader) : Prop := h.channel = k.channel ∨ h.messageId = k.messageId

/-- The index behind an index, if a byte can hold it. -/
def following? (index : UInt8) : Option UInt8 := if index = 255 then none else some (index + 1)

/-- Whether `next` may continue `previous`, without an answer if a byte cannot hold the index that
it would have to be compared with. -/
def continuesWithin (previous next : FragmentHeader) : Option Bool :=
  if previous.count ≠ next.count || next.index ≤ previous.index then some false
  else do
    let following ← following? previous.index
    let sameChannel := previous.channel = next.channel
    let sameMessage := previous.messageId = next.messageId
    pure (if next.index = following then sameChannel || sameMessage
      else sameChannel && sameMessage)

variable {previous next : FragmentHeader}

theorem following?_of_lt {i j : UInt8} (h : i < j) : following? i = some (i + 1) := by
  rw [following?, if_neg]
  rintro rfl
  have greater : 255 < j.toNat := UInt8.lt_iff_toNat_lt.mp h
  exact absurd j.toNat_lt (Nat.not_lt.mpr greater)

/-- There is always a following index where one is looked for. -/
theorem continuesWithin_eq (previous next : FragmentHeader) :
    previous.continuesWithin next = some (previous.continues next) := by
  rw [continuesWithin, continues]
  split
  · rfl
  · next h =>
    have later : previous.index < next.index := by
      simp only [Bool.or_eq_true, decide_eq_true_eq, not_or, UInt8.not_le] at h
      exact h.2
    rw [following?_of_lt later]
    rfl

/-- Where an index may be left out, more than a link is asked for. -/
theorem count_index_linked_of_continues (h : previous.continues next = true) :
    previous.count = next.count ∧ previous.index < next.index ∧ previous.Linked next := by
  rw [continues] at h
  split at h
  · cases h
  · next guard =>
    simp only [Bool.or_eq_true, decide_eq_true_eq, not_or, ne_eq, Decidable.not_not,
      UInt8.not_le] at guard
    refine ⟨guard.1, guard.2, ?_⟩
    dsimp only at h
    split at h
    · simpa [Linked] using h
    · simp only [Bool.and_eq_true, decide_eq_true_eq] at h
      exact .inl h.1

theorem continues_of_linked (count : previous.count = next.count)
    (index : next.index.toNat = previous.index.toNat + 1) (h : previous.Linked next) :
    previous.continues next = true := by
  have later : previous.index < next.index := UInt8.lt_iff_toNat_lt.mpr (by omega)
  have following : next.index = previous.index + 1 := by
    apply UInt8.toNat_inj.mp
    have := next.index.toNat_lt
    rw [index, UInt8.toNat_add, UInt8.toNat_one, Nat.mod_eq_of_lt (by omega)]
  rw [following] at later
  rcases h with h | h <;> simp [continues, count, following, later, h]

end FragmentHeader

/-! ### Indices without a gap -/

/-- Ascending numbers that end no later than their number allows leave none out. -/
theorem eq_range'_of_isChain_lt {a n : Nat} {l : List Nat} (ascending : (a :: l).IsChain (· < ·))
    (last : (a :: l).getLast? = some n) (h : n ≤ a + l.length) :
    a :: l = List.range' a (l.length + 1) := by
  induction l generalizing a with
  | nil => rfl
  | cons b l ih =>
    obtain ⟨less, ascending⟩ := List.isChain_cons_cons.mp ascending
    rw [List.getLast?_cons_cons] at last
    rw [List.length_cons] at h
    have rest : b :: l = List.range' b (l.length + 1) := ih ascending last (by omega)
    -- nothing is left out behind `b`, so that the end leaves no room between `a` and `b`
    rw [rest, List.getLast?_range', if_neg (Nat.succ_ne_zero _), Option.some.injEq] at last
    obtain rfl : b = a + 1 := by omega
    rw [List.length_cons, List.range'_succ, ← rest]

/-! ### The headers of a whole message -/

/-- Each header has the number of headers as its count and its own place as its index, and is
linked to the one behind it. -/
structure IsNumbered (headers : List FragmentHeader) : Prop where
  ne_nil : headers ≠ []
  count_eq : ∀ h ∈ headers, h.count.toNat = headers.length
  index_eq : ∀ i (hi : i < headers.length), headers[i].index.toNat = i + 1
  linked : headers.IsChain FragmentHeader.Linked

variable {headers : List FragmentHeader} {h k : FragmentHeader}

theorem isChain_iff : isChain headers = true ↔ headers.IsChain (·.continues · = true) := by
  induction headers with
  | nil => simp [isChain]
  | cons h headers ih =>
    cases headers with
    | nil => simp [isChain]
    | cons k headers => rw [isChain, Bool.and_eq_true, ih, List.isChain_cons_cons]

theorem checkSequence_eq_ok_iff_ends : checkSequence headers = .ok () ↔
    ∃ first last, headers.head? = some first ∧ headers.getLast? = some last ∧ first.index = 1 ∧
      last.index = last.count ∧ headers.length = first.count.toNat ∧
      headers.IsChain (·.continues · = true) := by
  rw [checkSequence, ← isChain_iff]
  cases headers.head? with
  | none => simp
  | some first =>
    cases headers.getLast? with
    | none => simp
    | some last =>
      by_cases one : first.index = 1 <;> by_cases all : last.index = last.count <;>
        by_cases length : headers.length = first.count.toNat <;>
        simp [FragmentHeader.isFirst, FragmentHeader.isLast, one, all, length]

theorem count_eq_of_isChain (chain : (h :: headers).IsChain (·.continues · = true))
    (hk : k ∈ h :: headers) : k.count = h.count := by
  induction headers generalizing h with
  | nil => rw [List.mem_singleton.mp hk]
  | cons first headers ih =>
    obtain ⟨continues, chain⟩ := List.isChain_cons_cons.mp chain
    rcases List.mem_cons.mp hk with rfl | hk
    · rfl
    · rw [ih chain hk, (FragmentHeader.count_index_linked_of_continues continues).1]

/-- The two ends, the number of headers and their neighbours determine all indices. -/
theorem isNumbered_of_checkSequence (ok : checkSequence headers = .ok ()) : IsNumbered headers := by
  obtain ⟨first, last, hfirst, hlast, one, all, length, chain⟩ := checkSequence_eq_ok_iff_ends.mp ok
  obtain ⟨rest, rfl⟩ := List.head?_eq_some_iff.mp hfirst
  have count : ∀ k ∈ first :: rest, k.count.toNat = (first :: rest).length := by
    intro k hk
    rw [count_eq_of_isChain chain hk, length]
  -- the neighbours make the indices ascend, and the two ends leave no room for a gap
  let place (k : FragmentHeader) : Nat := k.index.toNat
  have ascending : ((first :: rest).map place).IsChain (· < ·) := by
    rw [List.isChain_map]
    refine chain.imp fun _ _ e => ?_
    exact UInt8.lt_iff_toNat_lt.mp (FragmentHeader.count_index_linked_of_continues e).2.1
  have places : (first :: rest).map place = List.range' 1 (first :: rest).length := by
    have one : place first = 1 := congrArg UInt8.toNat one
    have greatest : place last = rest.length + 1 :=
      (congrArg UInt8.toNat all).trans (count last (List.mem_of_getLast? hlast))
    have end_eq : (place first :: rest.map place).getLast? = some (place last) := by
      rw [← List.map_cons, List.getLast?_map, hlast, Option.map_some]
    rw [List.map_cons, eq_range'_of_isChain_lt ascending end_eq, one, List.length_map,
      List.length_cons]
    rw [greatest, one, List.length_map, Nat.add_comm]
  refine ⟨List.cons_ne_nil first rest, count, ?_, ?_⟩
  · intro i hi
    have := List.getElem_of_eq places (i := i) (by simpa using hi)
    rw [List.getElem_map, List.getElem_range'] at this
    rw [show (first :: rest)[i].index.toNat = place (first :: rest)[i] from rfl, this]
    omega
  · exact chain.imp fun _ _ e => (FragmentHeader.count_index_linked_of_continues e).2.2

theorem IsNumbered.isChain_continues (numbered : IsNumbered headers) :
    headers.IsChain (·.continues · = true) := by
  rw [List.isChain_iff_getElem]
  intro i hi
  refine FragmentHeader.continues_of_linked ?_ ?_ ?_
  · apply UInt8.toNat_inj.mp
    rw [numbered.count_eq _ (List.getElem_mem _), numbered.count_eq _ (List.getElem_mem _)]
  · rw [numbered.index_eq, numbered.index_eq]
  · exact List.isChain_iff_getElem.mp numbered.linked i hi

theorem checkSequence_eq_ok_iff : checkSequence headers = .ok () ↔ IsNumbered headers := by
  refine ⟨isNumbered_of_checkSequence, fun numbered => ?_⟩
  have positive : 0 < headers.length := List.length_pos_of_ne_nil numbered.ne_nil
  have first : headers.head? = some headers[0] := by
    rw [List.head?_eq_getElem?, List.getElem?_eq_getElem positive]
  have last : headers.getLast? = some headers[headers.length - 1] := by
    rw [List.getLast?_eq_getElem?, List.getElem?_eq_getElem]
  refine checkSequence_eq_ok_iff_ends.mpr
    ⟨_, _, first, last, ?_, ?_, ?_, numbered.isChain_continues⟩
  · exact UInt8.toNat_inj.mp (numbered.index_eq 0 positive)
  · apply UInt8.toNat_inj.mp
    rw [numbered.index_eq, numbered.count_eq _ (List.getElem_mem _)]
    omega
  · rw [numbered.count_eq _ (List.getElem_mem _)]

/-! ### Whole messages -/

variable {fragments : List Record} {payload : Text} {fillBits : UInt8} {r : Record}

/-- Every fragment has a header and a payload, the headers are those of a whole message, and the
last fragment has fill bits. -/
structure IsWhole (fragments : List Record) : Prop where
  headers : ∃ headers, List.Forall₂ (fun r h => r.fragmentHeader = .ok h) fragments headers ∧
    IsNumbered headers
  payloads : ∀ r ∈ fragments, 4 < r.count
  fillBits : ∃ last ∈ fragments.getLast?, ∃ n, last.fillBits = .ok n

/-- The header of a fragment tells its place in the whole message. -/
theorem IsWhole.exists_header (whole : IsWhole fragments) {i : Nat} (hi : i < fragments.length) :
    ∃ header, fragments[i].fragmentHeader = .ok header ∧ header.index.toNat = i + 1 ∧
      header.count.toNat = fragments.length := by
  obtain ⟨headers, hh, numbered⟩ := whole.headers
  have hi' : i < headers.length := hh.length_eq ▸ hi
  refine ⟨headers[i], hh.get hi hi', numbered.index_eq i hi', ?_⟩
  rw [numbered.count_eq _ (List.getElem_mem hi'), hh.length_eq]

theorem IsWhole.ne_nil (whole : IsWhole fragments) : fragments ≠ [] := by
  obtain ⟨last, hl, -⟩ := whole.fillBits
  exact List.ne_nil_of_mem (List.mem_of_getLast? hl)

/-- The payload of a fragment, empty if there is no field for it. -/
def Record.chunk (r : Record) : Text := r.fields.getD 4 []

theorem Record.payload_eq_ok_iff {text : Text} :
    r.payload = .ok text ↔ 4 < r.count ∧ r.chunk = text := by
  rw [payload, field, count, chunk, List.getD_eq_getElem?_getD]
  by_cases h : 4 < r.fields.length
  · simp [h]
  · simp [h]

theorem mapM_payload_eq_ok_iff {payloads : List Text} :
    fragments.mapM Record.payload = .ok payloads ↔
      (∀ r ∈ fragments, 4 < r.count) ∧ fragments.map Record.chunk = payloads := by
  simp only [mapM_eq_ok_iff, Record.payload_eq_ok_iff]
  rw [List.forall₂_and_left, ← List.forall₂_map_left_iff (R := Eq), List.forall₂_eq_eq_eq]

/-- What is joined is whole, and it is joined in its order. -/
theorem isWhole_of_reassemble (h : reassemble fragments = .ok (payload, fillBits)) :
    IsWhole fragments ∧ payload = fragments.flatMap Record.chunk ∧
      ∃ last ∈ fragments.getLast?, last.fillBits = .ok fillBits := by
  obtain ⟨headers, hh, h⟩ := bind_eq_ok_iff.mp h
  obtain ⟨⟨⟩, sequence, h⟩ := bind_eq_ok_iff.mp h
  obtain ⟨payloads, hp, h⟩ := bind_eq_ok_iff.mp h
  obtain ⟨room, rfl⟩ := mapM_payload_eq_ok_iff.mp hp
  cases hl : fragments.getLast? with
  | none =>
    rw [hl] at h
    cases h
  | some last =>
    rw [hl] at h
    obtain ⟨n, hn, h⟩ := bind_eq_ok_iff.mp h
    cases h
    exact ⟨⟨⟨headers, mapM_eq_ok_iff.mp hh, checkSequence_eq_ok_iff.mp sequence⟩, room,
      last, hl, _, hn⟩, rfl, last, rfl, hn⟩

theorem IsWhole.reassemble_eq_ok (whole : IsWhole fragments) {last : Record}
    (hl : fragments.getLast? = some last) (hn : last.fillBits = .ok fillBits) :
    reassemble fragments = .ok (fragments.flatMap Record.chunk, fillBits) := by
  obtain ⟨headers, hh, numbered⟩ := whole.headers
  exact Nmea.reassemble_eq_ok (mapM_eq_ok_iff.mpr hh) (checkSequence_eq_ok_iff.mpr numbered)
    (mapM_payload_eq_ok_iff.mpr ⟨whole.payloads, rfl⟩) hl hn

/-- Fragments are joined exactly if they make a whole message, to their payloads one behind the
other with the fill bits of the last one; and no index is ever compared with one that a byte cannot
hold. -/
theorem reassemble_eq_ok_iff_isWhole (fragments : List Record) :
    ((∃ message, reassemble fragments = .ok message) ↔ IsWhole fragments) ∧
    (∀ payload fillBits, reassemble fragments = .ok (payload, fillBits) ↔
      IsWhole fragments ∧ payload = fragments.flatMap Record.chunk ∧
        ∃ last ∈ fragments.getLast?, last.fillBits = .ok fillBits) ∧
    ∀ previous next : FragmentHeader,
      previous.continuesWithin next = some (previous.continues next) := by
  refine ⟨⟨?_, ?_⟩, ?_, FragmentHeader.continuesWithin_eq⟩
  · rintro ⟨⟨payload, fillBits⟩, h⟩
    exact (isWhole_of_reassemble h).1
  · intro whole
    obtain ⟨last, hl, n, hn⟩ := whole.fillBits
    exact ⟨_, whole.reassemble_eq_ok hl hn⟩
  · intro payload fillBits
    refine ⟨isWhole_of_reassemble, ?_⟩
    rintro ⟨whole, rfl, last, hl, hn⟩
    exact whole.reassemble_eq_ok hl hn

end Nmea
