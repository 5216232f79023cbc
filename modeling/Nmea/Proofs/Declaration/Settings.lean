import Nmea.Declaration.Basic
import Nmea.Proofs.Address.Split
import Nmea.Proofs.Outcome

/-!
# What declarations settle

The items of a declaration are taken one after the other, and each of them changes one setting.
`Settings.add_cases` says how; what holds of the settings that a declaration ends with, such as that
the sentence id can stand behind any talker (`isSentenceId_of_kindOfItems`), follows by induction
on the items.
-/

namespace Nmea.Declaration

/-! ### Single items -/

variable {s s' : Settings} {item : Item} {items : List Item}

theorem checkCount_eq_ok_iff {negative : Bool} {n m : Nat} :
    checkCount negative n = .ok m ↔ negative = false ∧ n ≤ mostFields ∧ n = m := by
  rw [checkCount]
  cases negative with
  | true => simp
  | false =>
    by_cases h : mostFields < n
    · simp [h, Nat.not_le.mpr h]
    · simp [h, Nat.not_lt.mp h]

/-- What an item that is taken changes, and what has been checked of it. -/
theorem Settings.add_cases (h : s.add item = .ok s') :
    (∃ t, item = .setting .id (.text t) ∧ isSentenceId t = true ∧ s' = { s with id := some t }) ∨
    (∃ n typed, item = .setting .fields (.integer false n typed) ∧ n ≠ 0 ∧ n ≤ mostFields ∧
      s' = { s with fields := some n }) ∨
    (∃ opening : Opening, item = .setting .opening (.char opening.char) ∧ s' = { s with opening }) ∨
    (∃ index text, item = .preset false index text ∧ index ≤ mostFields ∧
      s' = { s with presets := s.presets ++ [(index, text)] }) := by
  unfold Settings.add at h
  split at h
  · next t =>
    split at h
    · next ht =>
      cases h
      exact .inl ⟨t, rfl, ht, rfl⟩
    · cases h
  · next negative n typed =>
    obtain ⟨m, hm, h⟩ := bind_eq_ok_iff.mp h
    obtain ⟨rfl, bound, rfl⟩ := checkCount_eq_ok_iff.mp hm
    split at h
    · cases h
    · next positive =>
      cases h
      exact .inr (.inl ⟨n, typed, rfl, positive, bound, rfl⟩)
  · next c =>
    split at h
    · next opening ho =>
      cases h
      cases Opening.ofChar?_eq_some_iff.mp ho
      exact .inr (.inr (.inl ⟨opening, rfl, rfl⟩))
    · cases h
  · next negative index text =>
    obtain ⟨m, hm, h⟩ := bind_eq_ok_iff.mp h
    obtain ⟨rfl, bound, rfl⟩ := checkCount_eq_ok_iff.mp hm
    cases h
    exact .inr (.inr (.inr ⟨index, text, rfl, bound, rfl⟩))
  · cases h

/-! ### All items -/

/-- What no item that is taken destroys holds of the settings in the end. -/
theorem Settings.addAll_induction {P : Settings → Prop}
    (step : ∀ {s s' item}, P s → Settings.add s item = .ok s' → P s') (hs : P s)
    (h : s.addAll items = .ok s') : P s' := by
  -- each item finds the settings that the items before it left
  induction items generalizing s with
  | nil =>
    cases h
    exact hs
  | cons item items ih =>
    obtain ⟨t, ht, h⟩ := bind_eq_ok_iff.mp h
    exact ih (step hs ht) h

/-- What an item may tell, and what the settings keep if it does not, is told by the last item that
tells it. -/
theorem Settings.last_addAll {α : Type} {get : Settings → Option α} {told : Item → Option α}
    (step : ∀ {s s' item}, Settings.add s item = .ok s' → get s' = (told item).or (get s))
    (h : s.addAll items = .ok s') : get s' = (items.filterMap told).getLast?.or (get s) := by
  induction items generalizing s with
  | nil =>
    cases h
    rfl
  | cons item items ih =>
    obtain ⟨t, ht, h⟩ := bind_eq_ok_iff.mp h
    rw [ih h, step ht]
    cases e : told item with
    | none => simp [e]
    | some a => cases hl : (items.filterMap told).getLast? <;> simp [e, hl, List.getLast?_cons]

/-- The id that settings name can be one. -/
theorem Settings.isSentenceId_of_addAll (hs : ∀ t ∈ s.id, isSentenceId t = true)
    (h : s.addAll items = .ok s') : ∀ t ∈ s'.id, isSentenceId t = true := by
  refine Settings.addAll_induction (P := fun s => ∀ t ∈ s.id, isSentenceId t = true) ?_ hs h
  intro s s' item hs h
  rcases Settings.add_cases h with ⟨t, -, ht, rfl⟩ | ⟨n, typed, -, -, -, rfl⟩ | ⟨o, -, rfl⟩ |
    ⟨index, text, -, -, rfl⟩
  · intro u hu
    cases hu
    exact ht
  · exact hs
  · exact hs
  · exact hs

/-! ### Kinds -/

variable {name id : Text} {k : Kind}

/-- A kind is what complete settings say. -/
theorem Settings.kind_eq_ok (h : s.kind name = .ok k) : ∃ n, s.id = some k.id ∧
    s.fields = some n ∧ checkPresets n s.presets = .ok () ∧
      k = ⟨name, k.id, n, s.opening, s.presets⟩ := by
  unfold Settings.kind at h
  split at h
  · cases h
  · cases h
  · next id n hid hn =>
    obtain ⟨⟨⟩, hp, h⟩ := bind_eq_ok_iff.mp h
    cases h
    exact ⟨n, hid, hn, hp, rfl⟩

/-- Items describe the kind of the settings that they end with. -/
theorem kindOfItems_eq_ok (h : kindOfItems name items = .ok k) :
    ∃ s, Settings.addAll {} items = .ok s ∧ s.kind name = .ok k := by
  obtain ⟨⟨⟩, -, h⟩ := bind_eq_ok_iff.mp h
  exact bind_eq_ok_iff.mp h

/-- The id of a kind that settings describe can stand behind any talker. -/
theorem Settings.isSentenceId_of_kind (hs : Settings.addAll {} items = .ok s)
    (hk : s.kind name = .ok k) : isSentenceId k.id = true := by
  obtain ⟨n, hid, -⟩ := Settings.kind_eq_ok hk
  have start : ∀ t ∈ ({} : Settings).id, isSentenceId t = true := by
    intro t ht
    cases ht
  exact Settings.isSentenceId_of_addAll start hs k.id hid

/-- The id of a declared kind can stand behind any talker. -/
theorem isSentenceId_of_kindOfItems (h : kindOfItems name items = .ok k) :
    isSentenceId k.id = true := by
  obtain ⟨s, hs, hk⟩ := kindOfItems_eq_ok h
  exact Settings.isSentenceId_of_kind hs hk

theorem isSentenceId_iff : isSentenceId id = true ↔
    (2 ≤ id.length ∧ id.length ≤ 8) ∧ id.all isAddressChar = true := by
  rw [isSentenceId, Bool.and_eq_true, Bool.and_eq_true, decide_eq_true_iff, decide_eq_true_iff]
  refine and_congr_left fun chars => ?_
  rw [utf8Length_of_isPrintable (all_mono (fun _ => isPrintable_of_isAddressChar) chars), idLengths]

/-- A sentence id makes an address with every talker. -/
theorem isAddressPair_of_isSentenceId (h : isSentenceId id = true) (talker : Talker) :
    isAddressPair talker id = true := by
  obtain ⟨length, chars⟩ := isSentenceId_iff.mp h
  exact isAddressPair_of_length length chars talker

end Nmea.Declaration
