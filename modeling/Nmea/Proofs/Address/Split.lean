import Nmea.Address.Basic
import Nmea.Proofs.Text.Class

/-!
# Talkers and addresses

A talker and its code determine each other, and so do an address and its two parts: the code of
the makers' own talker is the single `P`, every other code has two characters and does not begin
so. Therefore the pair of a talker and a sentence id is cut out of its address again whatever the
talker is, and every text that can be an address has such a pair.
-/

namespace Nmea

/-! ### Codes -/

namespace TalkerName

/-- A name other than `P` is two characters, of which the first is not `P`. -/
theorem code_eq_pair {n : TalkerName} (h : n ≠ .P) : ∃ a b, n.code = [a, b] ∧ a ≠ 'P' := by
  cases n
  case P => exact absurd rfl h
  all_goals exact ⟨_, _, rfl, by decide⟩

theorem all_isAddressChar_code (n : TalkerName) : n.code.all isAddressChar = true := by
  cases n <;> rfl

theorem code_of_ofCode? {code : Text} {n : TalkerName} (h : ofCode? code = some n) :
    n.code = code := by
  simpa using List.find?_some h

end TalkerName

namespace TalkerCode

theorem isAddressChar_of_valid (c : TalkerCode) :
    isAddressChar c.first = true ∧ isAddressChar c.second = true ∧ c.first ≠ 'P' ∧
      TalkerName.ofCode? [c.first, c.second] = none := by
  have h := c.valid
  simp only [isTalkerCode, Bool.and_eq_true, bne_iff_ne, Option.isNone_iff_eq_none] at h
  exact ⟨h.1.1.1, h.1.1.2, h.1.2, h.2⟩

theorem ofChars?_eq_some_iff {a b : Char} {c : TalkerCode} :
    ofChars? a b = some c ↔ c.text = [a, b] := by
  obtain ⟨first, second, valid⟩ := c
  rw [ofChars?, text]
  constructor
  · intro h
    split at h <;> cases h
    rfl
  · intro h
    cases h
    exact dif_pos valid

end TalkerCode

namespace Talker

variable {a b : Char} {code : Text} {t : Talker}

/-- The code of a talker is `P`, or two characters that do not begin so. -/
theorem text_cases (t : Talker) : t = .named .P ∨ ∃ a b, t.text = [a, b] ∧ a ≠ 'P' := by
  match t with
  | .named n =>
    by_cases h : n = .P
    · exact .inl (by rw [h])
    · exact .inr (TalkerName.code_eq_pair h)
  | .other c => exact .inr ⟨c.first, c.second, rfl, c.isAddressChar_of_valid.2.2.1⟩

theorem all_isAddressChar_text (t : Talker) : t.text.all isAddressChar = true := by
  match t with
  | .named n => exact n.all_isAddressChar_code
  | .other c =>
    obtain ⟨first, second, -⟩ := c.isAddressChar_of_valid
    simp [text, TalkerCode.text, first, second]

theorem length_text (t : Talker) : 1 ≤ t.text.length ∧ t.text.length ≤ 2 := by
  rcases t.text_cases with rfl | ⟨a, b, h, -⟩
  · decide
  · simp [h]

/-- The code of a talker is read as that talker. -/
theorem ofText?_text (t : Talker) : ofText? t.text = some t := by
  match t with
  | .named n => simp [text, ofText?]
  | .other c =>
    simp [text, TalkerCode.text, ofText?, c.isAddressChar_of_valid.2.2.2, TalkerCode.ofChars?,
      c.valid]

/-- A talker is read from nothing but its code. -/
theorem text_of_ofText? (h : ofText? code = some t) : t.text = code := by
  unfold ofText? at h
  split at h
  · next n hn =>
    cases h
    exact TalkerName.code_of_ofCode? hn
  · split at h
    · obtain ⟨c, hc, rfl⟩ := Option.map_eq_some_iff.mp h
      exact TalkerCode.ofChars?_eq_some_iff.mp hc
    · cases h

theorem ofText?_eq_some_iff : ofText? code = some t ↔ t.text = code :=
  ⟨text_of_ofText?, fun h => h ▸ ofText?_text t⟩

/-- Any two address characters are the code of a talker, unless they begin with `P`. -/
theorem exists_ofText?_pair (ha : isAddressChar a = true) (hb : isAddressChar b = true)
    (hP : a ≠ 'P') : ∃ t, ofText? [a, b] = some t := by
  unfold ofText?
  split
  · next n _ => exact ⟨.named n, rfl⟩
  · next hn =>
    have valid : isTalkerCode a b = true := by simp [isTalkerCode, ha, hb, hP, hn]
    exact ⟨.other ⟨a, b, valid⟩, by simp [TalkerCode.ofChars?, valid]⟩

end Talker

/-! ### Addresses -/

variable {talker : Talker} {id address : Text}

/-- An address that does not begin with `P` is cut behind its second character. -/
theorem splitAddress?_cons_cons {a b : Char} (h : a ≠ 'P') (id : Text) :
    splitAddress? (a :: b :: id) = (Talker.ofText? [a, b]).map fun talker => (talker, id) := by
  unfold splitAddress?
  split
  · next e =>
    cases e
    exact absurd rfl h
  · next e =>
    cases e
    rfl
  · next e => exact absurd rfl (e a b id)

/-- A talker and an id are cut out of their address again. -/
theorem splitAddress?_addressOf (talker : Talker) (id : Text) :
    splitAddress? (addressOf talker id) = some (talker, id) := by
  rcases talker.text_cases with rfl | ⟨a, b, h, hP⟩
  · rfl
  · rw [addressOf, h]
    show splitAddress? (a :: b :: id) = some (talker, id)
    rw [splitAddress?_cons_cons hP, ← h, Talker.ofText?_text]
    rfl

/-- The parts of an address make it again. -/
theorem addressOf_of_splitAddress? (h : splitAddress? address = some (talker, id)) :
    addressOf talker id = address := by
  unfold splitAddress? at h
  split at h
  · cases h
    rfl
  · obtain ⟨t, ht, e⟩ := Option.map_eq_some_iff.mp h
    cases e
    rw [addressOf, Talker.text_of_ofText? ht]
    rfl
  · cases h

/-- Every text that can be an address has a talker and an id. -/
theorem exists_splitAddress? (h : isAddress address = true) :
    ∃ talker id, splitAddress? address = some (talker, id) := by
  simp only [isAddress, Bool.and_eq_true, decide_eq_true_eq, List.all_eq_true] at h
  obtain ⟨⟨length, -⟩, chars⟩ := h
  match address with
  | [] | [_] => simp [minAddressLength] at length
  | a :: b :: id =>
    by_cases hP : a = 'P'
    · subst hP
      exact ⟨_, _, rfl⟩
    · obtain ⟨t, ht⟩ := Talker.exists_ofText?_pair (chars a (by simp)) (chars b (by simp)) hP
      exact ⟨t, id, by rw [splitAddress?_cons_cons hP, ht]; rfl⟩

/-! ### Pairs -/

/-- That an address is cut into the same two again is never in question. -/
theorem isAddressPair_eq (talker : Talker) (id : Text) :
    isAddressPair talker id = isAddress (addressOf talker id) := by
  simp [isAddressPair, splitAddress?_addressOf]

/-- An id of two to eight address characters makes an address with every talker. -/
theorem isAddressPair_of_length (hl : 2 ≤ id.length ∧ id.length ≤ 8)
    (hc : id.all isAddressChar = true) (talker : Talker) : isAddressPair talker id = true := by
  have := talker.length_text
  have hlen : (addressOf talker id).length = talker.text.length + id.length := List.length_append
  have hall : (addressOf talker id).all isAddressChar = true := by
    rw [addressOf, List.all_append, talker.all_isAddressChar_text, hc]
    rfl
  simp only [isAddressPair_eq, isAddress, hall, hlen, minAddressLength, maxAddressLength,
    Bool.and_true, Bool.and_eq_true, decide_eq_true_eq]
  omega

end Nmea
