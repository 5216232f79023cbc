import Nmea.Proofs.Declaration.Settings
import Nmea.Proofs.Kind.Sentence

/-!
# Blank sentences of declared kinds

What a declaration is checked for is what a blank sentence needs: no preset is left out, each field
holds the text that was declared last for it, and every talker makes an address with the id, so
that the sentence is read again from its line (`Declaration.forTalker_of_declared`).
-/

namespace Nmea.Declaration

variable {s s' : Settings} {item : Item} {items : List Item} {name : Text} {k : Kind}

/-! ### What items declare -/

/-- The number of fields that an item declares. -/
def Item.fieldCount? : Item → Option Nat
  | .setting .fields (.integer _ n _) => some n
  | _                                 => none

/-- The index and the text that an item declares. -/
def Item.preset? : Item → Option (Nat × Text)
  | .preset _ index text => some (index, text)
  | .setting _ _         => none

theorem Settings.fields_add (h : s.add item = .ok s') :
    s'.fields = item.fieldCount?.or s.fields := by
  rcases Settings.add_cases h with ⟨t, rfl, -, rfl⟩ | ⟨n, typed, rfl, -, -, rfl⟩ | ⟨o, rfl, rfl⟩ |
    ⟨index, text, rfl, -, rfl⟩ <;> rfl

theorem Settings.presets_add (h : s.add item = .ok s') :
    s'.presets = s.presets ++ item.preset?.toList := by
  rcases Settings.add_cases h with ⟨t, rfl, -, rfl⟩ | ⟨n, typed, rfl, -, -, rfl⟩ | ⟨o, rfl, rfl⟩ |
    ⟨index, text, rfl, -, rfl⟩ <;> simp [Item.preset?]

/-- The number of fields is the one that is declared last. -/
theorem Settings.fields_addAll (h : s.addAll items = .ok s') :
    s'.fields = (items.filterMap Item.fieldCount?).getLast?.or s.fields :=
  Settings.last_addAll Settings.fields_add h

/-- The presets are those that are declared, in their order. -/
theorem Settings.presets_addAll (h : s.addAll items = .ok s') :
    s'.presets = s.presets ++ items.filterMap Item.preset? := by
  induction items generalizing s with
  | nil =>
    cases h
    simp
  | cons item items ih =>
    obtain ⟨t, ht, h⟩ := bind_eq_ok_iff.mp h
    rw [ih h, Settings.presets_add ht]
    cases e : item.preset? <;> simp [e]

/-! ### What is checked -/

theorem checkPresets_eq_ok_iff {count : Nat} {presets : List (Nat × Text)} :
    checkPresets count presets = .ok () ↔
      ∀ preset ∈ presets, preset.1 < count ∧ isFieldText preset.2 = true := by
  induction presets with
  | nil => simp [checkPresets]
  | cons preset presets ih =>
    obtain ⟨index, text⟩ := preset
    rw [checkPresets, List.forall_mem_cons, ← ih]
    by_cases hi : count ≤ index
    · simp [hi, Nat.not_lt.mpr hi]
    · by_cases ht : isFieldText text = true
      · simp [hi, ht, Nat.not_le.mp hi]
      · simp [hi, ht]

theorem Settings.ne_zero_of_addAll (hs : ∀ n ∈ s.fields, n ≠ 0) (h : s.addAll items = .ok s') :
    ∀ n ∈ s'.fields, n ≠ 0 := by
  refine Settings.addAll_induction (P := fun s => ∀ n ∈ s.fields, n ≠ 0) ?_ hs h
  intro s s' item hs h
  rcases Settings.add_cases h with ⟨t, -, -, rfl⟩ | ⟨n, typed, -, positive, -, rfl⟩ | ⟨o, -, rfl⟩ |
    ⟨index, text, -, -, rfl⟩
  · exact hs
  · intro m hm
    cases hm
    exact positive
  · exact hs
  · exact hs

section Kinds

variable (hs : Settings.addAll {} items = .ok s) (hk : s.kind name = .ok k)

include hk

/-- The presets of a kind are written into fields that there are, which can carry them. -/
theorem Settings.presets_fit_of_kind :
    ∀ preset ∈ k.presets, preset.1 < k.fieldCount ∧ isFieldText preset.2 = true := by
  obtain ⟨n, -, -, hp, e⟩ := Settings.kind_eq_ok hk
  rw [e]
  exact checkPresets_eq_ok_iff.mp hp

include hs

theorem Settings.fieldCount_ne_zero_of_kind : k.fieldCount ≠ 0 := by
  obtain ⟨n, -, hn, -, e⟩ := Settings.kind_eq_ok hk
  rw [e]
  exact Settings.ne_zero_of_addAll (by simp) hs n hn

theorem Settings.getLast?_fieldCount_of_kind :
    (items.filterMap Item.fieldCount?).getLast? = some k.fieldCount := by
  obtain ⟨n, -, hn, -, e⟩ := Settings.kind_eq_ok hk
  rw [e, ← hn, Settings.fields_addAll hs, Option.or_none]

theorem Settings.presets_of_kind : k.presets = items.filterMap Item.preset? := by
  obtain ⟨n, -, -, -, e⟩ := Settings.kind_eq_ok hk
  rw [e, Settings.presets_addAll hs, List.nil_append]

end Kinds

/-! ### Blank sentences -/

/-- The blank sentence of a talker, of the kind that the settings of any items describe: nothing is
left out, there are as many fields as were declared, each holds the text that was declared last for
it, the talker and the id make an address, and the kind reads the sentence again from its line. -/
theorem forTalker_of_declared (hs : Settings.addAll {} items = .ok s) (hk : s.kind name = .ok k)
    (talker : Talker) :
    let blank := k.forTalker talker
    let r := blank.value.record
    blank.events = [] ∧
    r.count = k.fieldCount ∧ (items.filterMap Item.fieldCount?).getLast? = some r.count ∧
    (∀ index < r.count,
      r.fields[index]? = some (Kind.presetText (items.filterMap Item.preset?) index)) ∧
    r.talker = talker ∧ r.id = k.id ∧ isAddressPair r.talker r.id = true ∧
    (k.parse blank.value.toText).value = .ok blank.value := by
  intro blank r
  have fit := Settings.presets_fit_of_kind hk
  have layout := k.sameLayout_forTalker talker
  have address := isAddressPair_of_isSentenceId (Settings.isSentenceId_of_kind hs hk) talker
  have count : r.count = k.fieldCount := by
    have positive := Settings.fieldCount_ne_zero_of_kind hs hk
    rw [k.count_forTalker talker]
    omega
  refine ⟨?_, count, ?_, ?_, layout.talker_eq, layout.id_eq, ?_, ?_⟩
  · show (k.forTalker talker).events = []
    rw [Kind.forTalker_eq_pure fit]
    rfl
  · rw [count]
    exact Settings.getLast?_fieldCount_of_kind hs hk
  · intro index hi
    rw [← Settings.presets_of_kind hs hk]
    exact Kind.field_forTalker fit talker (count ▸ hi)
  · rw [layout.talker_eq, layout.id_eq]
    exact address
  · have read := Kind.value_parse_toText (Kind.wellFormed_forTalker address) layout.id_eq none
    rwa [Terminator.endText, List.append_nil] at read

/-- A longest id, two presets for one field, and a count that is declared after them. -/
theorem forTalker_of_declared_twice :
    let items : List Item := [.preset false 2 "M".toList, .setting .opening (.char '!'),
      .preset false 0 "T".toList, .setting .id (.text "GRMEZ123".toList),
      .preset false 2 "F".toList, .setting .fields (.integer false 4 false)]
    let s : Settings := ⟨some "GRMEZ123".toList, some 4, .encapsulation,
      [(2, "M".toList), (0, "T".toList), (2, "F".toList)]⟩
    let k : Kind := ⟨"Custom".toList, "GRMEZ123".toList, 4, .encapsulation, s.presets⟩
    let blank := k.forTalker (.named .GP)
    Settings.addAll {} items = .ok s ∧ s.kind "Custom".toList = .ok k ∧ blank.events = [] ∧
      blank.value.record.fields[2]? = some "F".toList ∧
      blank.value.record.fields[3]? = some [] ∧
      (k.parse blank.value.toText).value = .ok blank.value := by
  intro items s k blank
  have hs : Settings.addAll {} items = .ok s := by rfl
  have hk : s.kind "Custom".toList = .ok k := by rfl
  obtain ⟨events, count, -, fields, -, -, -, read⟩ := forTalker_of_declared hs hk (.named .GP)
  have last : blank.value.record.fields[2]? =
      some (Kind.presetText (items.filterMap Item.preset?) 2) := fields 2 (by rw [count]; decide)
  have empty : blank.value.record.fields[3]? =
      some (Kind.presetText (items.filterMap Item.preset?) 3) := fields 3 (by rw [count]; decide)
  exact ⟨hs, hk, events, last.trans (by decide), empty.trans (by decide), read⟩

end Nmea.Declaration
