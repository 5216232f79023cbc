import Nmea.Proofs.Declaration.Blank

/-!
# Declarations as a whole

The items of a declaration are checked in passes: that none stands twice, what each of them says,
and what they say together. What is accepted after all of them is told by the items of each name
(`kindOfItems_eq_ok_iff`), so that neither the order of items with different names nor their
distribution over attributes matters (`declare_eq_ok_iff_declares`).
-/

namespace Nmea.Declaration

variable {s : Settings} {item : Item} {items others : List Item} {n : ItemName} {name : Text}
  {k : Kind}

/-! ### Items of one name -/

/-- The items of a name, in their order. -/
def itemsNamed (n : ItemName) (items : List Item) : List Item := items.filter (·.name = n)

theorem itemsNamed_cons_self : itemsNamed item.name (item :: items) =
    item :: itemsNamed item.name items :=
  List.filter_cons_of_pos (decide_eq_true rfl)

theorem itemsNamed_cons_of_ne (h : item.name ≠ n) :
    itemsNamed n (item :: items) = itemsNamed n items :=
  List.filter_cons_of_neg fun same => h (of_decide_eq_true same)

theorem mem_itemsNamed : item ∈ itemsNamed n items ↔ item ∈ items ∧ item.name = n := by
  rw [itemsNamed, List.mem_filter, decide_eq_true_iff]

/-- What only items of one name tell is told by these items. -/
theorem filterMap_itemsNamed {α : Type} {told : Item → Option α}
    (h : ∀ item, item.name ≠ n → told item = none) (items : List Item) :
    (itemsNamed n items).filterMap told = items.filterMap told := by
  induction items with
  | nil => rfl
  | cons item items ih =>
    by_cases same : item.name = n
    · subst same
      rw [itemsNamed_cons_self, List.filterMap_cons, List.filterMap_cons, ih]
    · rw [itemsNamed_cons_of_ne same, List.filterMap_cons, h item same, ih]

/-- Items stand at most once if there is at most one of each name, those that were seen included. -/
theorem checkDuplicates_eq_ok_iff {seen : List ItemName} : checkDuplicates seen items = .ok () ↔
    ∀ n ≠ .preset, (itemsNamed n items).length + (if n ∈ seen then 1 else 0) ≤ 1 := by
  -- a name that was seen counts as one item, so that moving an item there changes no sum
  induction items generalizing seen with
  | nil =>
    refine ⟨fun _ n _ => ?_, fun _ => rfl⟩
    rw [itemsNamed, List.filter_nil, List.length_nil, Nat.zero_add]
    split <;> decide
  | cons item items ih =>
    rw [checkDuplicates]
    split
    · next isPreset =>
      rw [ih]
      refine forall₂_congr fun n hn => ?_
      rw [itemsNamed_cons_of_ne (isPreset ▸ hn.symm)]
    · next notPreset =>
      split
      · next before =>
        refine ⟨nofun, fun once => ?_⟩
        have twice := once item.name notPreset
        rw [itemsNamed_cons_self, if_pos (List.contains_iff_mem.mp before)] at twice
        simp at twice
      · next fresh =>
        rw [ih]
        refine forall₂_congr fun n _ => ?_
        by_cases same : item.name = n
        · subst same
          have unseen : item.name ∉ seen := fun h => fresh (List.contains_iff_mem.mpr h)
          rw [itemsNamed_cons_self, if_pos List.mem_cons_self, if_neg unseen, List.length_cons]
        · simp only [itemsNamed_cons_of_ne same, List.mem_cons, Ne.symm same, false_or]

theorem itemsNamed_eq_of_length_le (h : (itemsNamed n items).length ≤ 1) :
    itemsNamed n items = [] ∨ ∃ item ∈ items, item.name = n ∧ itemsNamed n items = [item] := by
  match found : itemsNamed n items, h with
  | [], _     => exact .inl rfl
  | [item], _ =>
    have there : item ∈ itemsNamed n items := found ▸ List.mem_singleton_self item
    obtain ⟨mem, named⟩ := mem_itemsNamed.mp there
    exact .inr ⟨item, mem, named, rfl⟩

/-! ### Sound items -/

/-- An item with a value of the right sort, within the bounds that do not depend on other items. -/
inductive Item.IsSound : Item → Prop
  | id {t : Text} (valid : isSentenceId t = true) : IsSound (.setting .id (.text t))
  | fields {n : Nat} (typed : Bool) (positive : n ≠ 0) (bound : n ≤ mostFields) :
    IsSound (.setting .fields (.integer false n typed))
  | opening (o : Opening) : IsSound (.setting .opening (.char o.char))
  | preset {index : Nat} (text : Text) (bound : index ≤ mostFields) :
    IsSound (.preset false index text)

theorem Item.isSound_iff (s : Settings) : item.IsSound ↔ ∃ s', s.add item = .ok s' := by
  constructor
  · intro sound
    cases sound with
    | id valid => exact ⟨_, if_pos valid⟩
    | fields typed positive bound =>
      exact ⟨_, bind_eq_ok_iff.mpr
        ⟨_, checkCount_eq_ok_iff.mpr ⟨rfl, bound, rfl⟩, if_neg positive⟩⟩
    | opening o =>
      refine ⟨{ s with opening := o }, ?_⟩
      simp only [Settings.add, Opening.ofChar?_char]
    | preset text bound =>
      exact ⟨_, bind_eq_ok_iff.mpr ⟨_, checkCount_eq_ok_iff.mpr ⟨rfl, bound, rfl⟩, rfl⟩⟩
  · rintro ⟨s', h⟩
    rcases Settings.add_cases h with ⟨t, rfl, valid, -⟩ | ⟨n, typed, rfl, positive, bound, -⟩ |
      ⟨o, rfl, -⟩ | ⟨index, text, rfl, bound, -⟩
    · exact .id valid
    · exact .fields typed positive bound
    · exact .opening o
    · exact .preset text bound

theorem Settings.exists_addAll_iff :
    (∃ s', s.addAll items = .ok s') ↔ ∀ item ∈ items, item.IsSound := by
  induction items generalizing s with
  | nil => exact ⟨nofun, fun _ => ⟨s, rfl⟩⟩
  | cons item items ih =>
    rw [List.forall_mem_cons, Item.isSound_iff s]
    constructor
    · rintro ⟨s', h⟩
      obtain ⟨t, ht, h⟩ := bind_eq_ok_iff.mp h
      exact ⟨⟨t, ht⟩, ih.mp ⟨s', h⟩⟩
    · rintro ⟨⟨t, ht⟩, rest⟩
      obtain ⟨s', h⟩ := ih.mpr rest
      exact ⟨s', bind_eq_ok_iff.mpr ⟨t, ht, h⟩⟩

theorem Settings.isSound_of_addAll {s' : Settings} (h : s.addAll items = .ok s') :
    ∀ item ∈ items, item.IsSound :=
  Settings.exists_addAll_iff.mp ⟨s', h⟩

/-! ### Settings in the end -/

/-- The id that an item tells. -/
def Item.id? : Item → Option Text
  | .setting .id (.text t) => some t
  | _                      => none

/-- The opening that an item tells. -/
def Item.opening? : Item → Option Opening
  | .setting .opening (.char c) => Opening.ofChar? c
  | _                           => none

/-- Presets as they are written. -/
def presetItems (presets : List (Nat × Text)) : List Item :=
  presets.map fun preset => .preset false preset.1 preset.2

theorem Settings.id_add {s' : Settings} (h : s.add item = .ok s') :
    s'.id = item.id?.or s.id := by
  rcases Settings.add_cases h with ⟨t, rfl, -, rfl⟩ | ⟨n, typed, rfl, -, -, rfl⟩ | ⟨o, rfl, rfl⟩ |
    ⟨index, text, rfl, -, rfl⟩ <;> rfl

theorem Settings.opening_add {s' : Settings} (h : s.add item = .ok s') :
    some s'.opening = item.opening?.or (some s.opening) := by
  rcases Settings.add_cases h with ⟨t, rfl, -, rfl⟩ | ⟨n, typed, rfl, -, -, rfl⟩ | ⟨o, rfl, rfl⟩ |
    ⟨index, text, rfl, -, rfl⟩ <;> simp [Item.opening?]

/-- Presets that are sound are the items that they are written as. -/
theorem itemsNamed_preset (sound : ∀ item ∈ items, item.IsSound) :
    itemsNamed .preset items = presetItems (items.filterMap Item.preset?) := by
  induction items with
  | nil => rfl
  | cons item items ih =>
    obtain ⟨first, rest⟩ := List.forall_mem_cons.mp sound
    cases first with
    | preset text bound => exact congrArg (_ :: ·) (ih rest)
    | id valid => exact ih rest
    | fields typed positive bound => exact ih rest
    | opening o => exact ih rest

section Settled

variable (hs : Settings.addAll {} items = .ok s)

include hs

/-- What items of one name tell is told by the only one of them, if there is one. -/
theorem Settings.told_cases {α : Type} {get : Settings → Option α} {told : Item → Option α}
    (step : ∀ {s s' item}, Settings.add s item = .ok s' → get s' = (told item).or (get s))
    (only : ∀ item, item.name ≠ n → told item = none) (once : (itemsNamed n items).length ≤ 1) :
    (itemsNamed n items = [] ∧ get s = get {}) ∨
      ∃ item, item.IsSound ∧ item.name = n ∧ itemsNamed n items = [item] ∧
        get s = (told item).or (get {}) := by
  have settled : get s = ((itemsNamed n items).filterMap told).getLast?.or (get {}) := by
    rw [filterMap_itemsNamed only]
    exact Settings.last_addAll step hs
  rcases itemsNamed_eq_of_length_le once with none | ⟨item, mem, named, one⟩
  · exact .inl ⟨none, by simpa [none] using settled⟩
  · refine .inr ⟨item, Settings.isSound_of_addAll hs item mem, named, one, ?_⟩
    rw [settled, one]
    cases tells : told item <;> simp [tells]

theorem Settings.id_eq_some_iff (once : (itemsNamed .id items).length ≤ 1) {t : Text} :
    s.id = some t ↔ itemsNamed .id items = [.setting .id (.text t)] := by
  have only : ∀ item : Item, item.name ≠ .id → item.id? = none := by
    rintro (⟨_ | _, _ | _⟩ | _) <;> simp [Item.name, Item.id?]
  rcases Settings.told_cases hs Settings.id_add only once with
    ⟨none, same⟩ | ⟨item, sound, named, one, same⟩
  · simp [none, same]
  · rw [one, same]
    cases sound <;> cases named
    simp [Item.id?]

theorem Settings.fields_eq_some_iff (once : (itemsNamed .fields items).length ≤ 1) {n : Nat} :
    s.fields = some n ↔
      ∃ typed, itemsNamed .fields items = [.setting .fields (.integer false n typed)] := by
  have only : ∀ item : Item, item.name ≠ .fields → item.fieldCount? = none := by
    rintro (⟨_ | _, _ | _⟩ | _) <;> simp [Item.name, Item.fieldCount?]
  rcases Settings.told_cases hs Settings.fields_add only once with
    ⟨none, same⟩ | ⟨item, sound, named, one, same⟩
  · simp [none, same]
  · rw [one, same]
    cases sound <;> cases named
    simp [Item.fieldCount?]

theorem Settings.opening_eq_iff (once : (itemsNamed .opening items).length ≤ 1) {o : Opening} :
    s.opening = o ↔ itemsNamed .opening items = [] ∧ o = .standard ∨
      itemsNamed .opening items = [.setting .opening (.char o.char)] := by
  have only : ∀ item : Item, item.name ≠ .opening → item.opening? = none := by
    rintro (⟨_ | _, _ | _⟩ | _) <;> simp [Item.name, Item.opening?]
  rw [← Option.some_inj]
  rcases Settings.told_cases hs Settings.opening_add only once with
    ⟨none, same⟩ | ⟨item, sound, named, one, same⟩
  · simp [none, same, eq_comm]
  · rw [one, same]
    cases sound <;> cases named
    next o' => cases o <;> cases o' <;> decide

theorem Settings.presets_eq_iff {presets : List (Nat × Text)} :
    s.presets = presets ↔ itemsNamed .preset items = presetItems presets := by
  have same : s.presets = items.filterMap Item.preset? := Settings.presets_addAll hs
  rw [itemsNamed_preset (Settings.isSound_of_addAll hs), same]
  refine ⟨fun h => h ▸ rfl, fun h => ?_⟩
  refine List.map_injective_iff.mpr ?_ h
  rintro ⟨i, t⟩ ⟨j, u⟩ e
  cases e
  rfl

end Settled

/-! ### Declarations -/

/-- A kind that items declare: there is one id, one number of fields, at most one opening and any
number of presets, all with values of the right sort and within their bounds. A count and an index
have no sign. -/
structure Declares (name : Text) (items : List Item) (k : Kind) : Prop where
  name_eq : k.name = name
  id_eq : itemsNamed .id items = [.setting .id (.text k.id)]
  length_id : 2 ≤ k.id.length ∧ k.id.length ≤ 8
  id_chars : ∀ c ∈ k.id, ('A' ≤ c ∧ c ≤ 'Z') ∨ ('0' ≤ c ∧ c ≤ '9')
  fields_eq : ∃ typed,
    itemsNamed .fields items = [.setting .fields (.integer false k.fieldCount typed)]
  fieldCount_bounds : 0 < k.fieldCount ∧ k.fieldCount < UInt64.size
  /-- A dollar sign opens sentences if nothing else is said. -/
  opening_eq : itemsNamed .opening items = [] ∧ k.opening = .standard ∨
    itemsNamed .opening items = [.setting .opening (.char k.opening.char)]
  /-- The presets keep their order, and may be for the same field. -/
  presets_eq : itemsNamed .preset items = presetItems k.presets
  presets_fit : ∀ preset ∈ k.presets, preset.1 < k.fieldCount ∧ IsFramingSafe preset.2

theorem isSentenceId_iff_of_chars {t : Text} : isSentenceId t = true ↔
    (2 ≤ t.length ∧ t.length ≤ 8) ∧ ∀ c ∈ t, ('A' ≤ c ∧ c ≤ 'Z') ∨ ('0' ≤ c ∧ c ≤ '9') := by
  simp only [isSentenceId_iff, List.all_eq_true, isAddressChar_iff]

theorem Settings.kind_eq_ok_iff : s.kind name = .ok k ↔ k.name = name ∧ s.id = some k.id ∧
    s.fields = some k.fieldCount ∧ s.opening = k.opening ∧ s.presets = k.presets ∧
      ∀ preset ∈ k.presets, preset.1 < k.fieldCount ∧ isFieldText preset.2 = true := by
  constructor
  · intro h
    obtain ⟨n, hid, hn, hp, e⟩ := Settings.kind_eq_ok h
    rw [e]
    exact ⟨rfl, hid, hn, rfl, rfl, checkPresets_eq_ok_iff.mp hp⟩
  · rintro ⟨rfl, hid, hn, ho, hp, fit⟩
    simp only [Settings.kind, hid, hn]
    rw [ho, hp]
    exact bind_eq_ok_iff.mpr ⟨(), checkPresets_eq_ok_iff.mpr fit, rfl⟩

namespace Declares

variable (declares : Declares name items k)

include declares

theorem length_itemsNamed_le (hn : n ≠ .preset) : (itemsNamed n items).length ≤ 1 := by
  cases n with
  | id => exact Nat.le_of_eq (congrArg List.length declares.id_eq)
  | fields =>
    obtain ⟨typed, fields⟩ := declares.fields_eq
    exact Nat.le_of_eq (congrArg List.length fields)
  | opening =>
    rcases declares.opening_eq with ⟨none, -⟩ | one
    · simp [none]
    · exact Nat.le_of_eq (congrArg List.length one)
  | preset => exact absurd rfl hn

theorem isSound : ∀ item ∈ items, item.IsSound := by
  intro item mem
  have there := mem_itemsNamed.mpr ⟨mem, rfl⟩
  cases named : item.name with
  | id =>
    rw [named, declares.id_eq, List.mem_singleton] at there
    exact there ▸ .id (isSentenceId_iff_of_chars.mpr ⟨declares.length_id, declares.id_chars⟩)
  | fields =>
    obtain ⟨typed, fields⟩ := declares.fields_eq
    obtain ⟨positive, bound⟩ := declares.fieldCount_bounds
    rw [named, fields, List.mem_singleton] at there
    exact there ▸ .fields typed (Nat.pos_iff_ne_zero.mp positive) (Nat.le_of_lt_succ bound)
  | opening =>
    rcases declares.opening_eq with ⟨none, -⟩ | one
    · rw [named, none] at there
      cases there
    · rw [named, one, List.mem_singleton] at there
      exact there ▸ .opening k.opening
  | preset =>
    rw [named, declares.presets_eq] at there
    obtain ⟨preset, declared, rfl⟩ := List.mem_map.mp there
    have bound := Nat.lt_trans (declares.presets_fit preset declared).1
      declares.fieldCount_bounds.2
    exact .preset preset.2 (Nat.le_of_lt_succ bound)

/-- What is declared is told by the items of each name. -/
theorem congr (same : ∀ n, itemsNamed n others = itemsNamed n items) : Declares name others k where
  name_eq := declares.name_eq
  id_eq := same .id ▸ declares.id_eq
  length_id := declares.length_id
  id_chars := declares.id_chars
  fields_eq := same .fields ▸ declares.fields_eq
  fieldCount_bounds := declares.fieldCount_bounds
  opening_eq := same .opening ▸ declares.opening_eq
  presets_eq := same .preset ▸ declares.presets_eq
  presets_fit := declares.presets_fit

/-- Items may change places as long as the presets keep theirs among themselves. -/
theorem of_perm (perm : others.Perm items)
    (presets : itemsNamed .preset others = itemsNamed .preset items) : Declares name others k := by
  refine declares.congr fun n => ?_
  by_cases hn : n = .preset
  · rw [hn, presets]
  · have moved : (itemsNamed n others).Perm (itemsNamed n items) := perm.filter _
    -- a single item has no place to change
    rcases itemsNamed_eq_of_length_le (declares.length_itemsNamed_le hn) with none |
      ⟨item, -, -, one⟩
    · rw [none] at moved ⊢
      exact moved.eq_nil
    · rw [one] at moved ⊢
      exact moved.eq_singleton

end Declares

/-- Items are accepted exactly if they declare a kind, which is then the kind that they describe. -/
theorem kindOfItems_eq_ok_iff : kindOfItems name items = .ok k ↔ Declares name items k := by
  have once : checkDuplicates [] items = .ok () ↔
      ∀ n ≠ .preset, (itemsNamed n items).length ≤ 1 := by
    simp [checkDuplicates_eq_ok_iff]
  -- in both directions the settings in the end stand between the items and the kind
  constructor
  · intro h
    obtain ⟨⟨⟩, unique, h⟩ := bind_eq_ok_iff.mp h
    obtain ⟨s, hs, hk⟩ := bind_eq_ok_iff.mp h
    rw [once] at unique
    have sound := Settings.isSound_of_addAll hs
    obtain ⟨rfl, hid, hn, ho, hp, fit⟩ := Settings.kind_eq_ok_iff.mp hk
    have id := (Settings.id_eq_some_iff hs (unique .id nofun)).mp hid
    have fields := (Settings.fields_eq_some_iff hs (unique .fields nofun)).mp hn
    obtain ⟨length, chars⟩ := isSentenceId_iff_of_chars.mp (Settings.isSentenceId_of_kind hs hk)
    have bounds : 0 < k.fieldCount ∧ k.fieldCount < UInt64.size := by
      obtain ⟨typed, one⟩ := fields
      have there := mem_itemsNamed.mp (one ▸ List.mem_singleton_self _)
      cases sound _ there.1 with
      | fields _ positive bound => exact ⟨Nat.pos_of_ne_zero positive, Nat.lt_succ_of_le bound⟩
    exact {
      name_eq := rfl
      id_eq := id
      length_id := length
      id_chars := chars
      fields_eq := fields
      fieldCount_bounds := bounds
      opening_eq := (Settings.opening_eq_iff hs (unique .opening nofun)).mp ho
      presets_eq := (Settings.presets_eq_iff hs).mp hp
      presets_fit := by simpa only [isFieldText_iff] using fit }
  · intro declares
    have unique : ∀ n ≠ .preset, (itemsNamed n items).length ≤ 1 :=
      fun n hn => declares.length_itemsNamed_le hn
    obtain ⟨s, hs⟩ := Settings.exists_addAll_iff.mpr declares.isSound
    have described : s.kind name = .ok k := Settings.kind_eq_ok_iff.mpr
      ⟨declares.name_eq, (Settings.id_eq_some_iff hs (unique .id nofun)).mpr declares.id_eq,
        (Settings.fields_eq_some_iff hs (unique .fields nofun)).mpr declares.fields_eq,
        (Settings.opening_eq_iff hs (unique .opening nofun)).mpr declares.opening_eq,
        (Settings.presets_eq_iff hs).mpr declares.presets_eq,
        by simpa only [isFieldText_iff] using declares.presets_fit⟩
    exact bind_eq_ok_iff.mpr ⟨(), once.mpr unique, bind_eq_ok_iff.mpr ⟨s, hs, described⟩⟩

/-! ### Attributes -/

/-- The items of the attributes that are written in front of what is declared, one list for each
attribute. -/
def itemsOf (texts : List Text) : Except Fault (List (List Item)) := do
  let attributes ← readAttributes (sourceOf texts)
  attributes.mapM Attribute.items

theorem checkBody_eq_ok_iff {body : Body} : checkBody body = .ok () ↔ body = .tuple 1 := by
  constructor
  · intro h
    unfold checkBody at h
    split at h <;> first | rfl | cases h
  · rintro rfl
    rfl

theorem declare_eq_ok_iff {body : Body} {texts : List Text} :
    declare name body texts = .ok k ↔ body = .tuple 1 ∧
      ∃ groups, itemsOf texts = .ok groups ∧ Declares name groups.flatten k := by
  simp only [declare, itemsOf, bind_eq_ok_iff, kindOfItems_eq_ok_iff, ← checkBody_eq_ok_iff]
  constructor
  · rintro ⟨attributes, read, ⟨⟩, newtype, groups, items, declares⟩
    exact ⟨newtype, groups, ⟨attributes, read, items⟩, declares⟩
  · rintro ⟨newtype, groups, ⟨attributes, read, items⟩, declares⟩
    exact ⟨attributes, read, (), newtype, groups, items, declares⟩

/-- Attributes whose items can be read declare a kind exactly if their items do, taken together. So
the items may be spread over other attributes, and those with different names may change places:
what is accepted and the kind that is declared stay the same. -/
theorem declare_eq_ok_iff_declares {texts : List Text} {groups : List (List Item)}
    (read : itemsOf texts = .ok groups) (name : Text) (body : Body) (k : Kind) :
    (declare name body texts = .ok k ↔ body = .tuple 1 ∧ Declares name groups.flatten k) ∧
      ∀ texts' groups', itemsOf texts' = .ok groups' → groups'.flatten.Perm groups.flatten →
        itemsNamed .preset groups'.flatten = itemsNamed .preset groups.flatten →
        (declare name body texts' = .ok k ↔ declare name body texts = .ok k) := by
  have accepted : ∀ {texts groups}, itemsOf texts = .ok groups →
      (declare name body texts = .ok k ↔ body = .tuple 1 ∧ Declares name groups.flatten k) := by
    intro texts groups read
    simp only [declare_eq_ok_iff, read, Except.ok.injEq, exists_eq_left']
  refine ⟨accepted read, fun texts' groups' read' perm presets => ?_⟩
  rw [accepted read, accepted read']
  refine and_congr_right fun _ => ?_
  exact ⟨fun declares => declares.of_perm perm.symm presets.symm,
    fun declares => declares.of_perm perm presets⟩

/-- Two presets for one field, in front of the number of fields and behind it. -/
theorem declare_eq_ok_iff_declares_presets :
    let texts := ["preset(index = 1, value = \"M\"), id = \"GX1\"".toList,
      "fields = 2, preset(index = 1, value = \"\"), begin = '!'".toList]
    let texts' := ["id = \"GX1\", begin = '!'".toList, "fields = 2".toList,
      "preset(index = 1, value = \"M\"), preset(index = 1, value = \"\"),".toList]
    let items : List Item := [.preset false 1 ['M'], .setting .id (.text "GX1".toList),
      .setting .fields (.integer false 2 false), .preset false 1 [], .setting .opening (.char '!')]
    let items' : List Item := [.setting .id (.text "GX1".toList), .setting .opening (.char '!'),
      .setting .fields (.integer false 2 false), .preset false 1 ['M'], .preset false 1 []]
    let k : Kind := ⟨['X'], "GX1".toList, 2, .encapsulation, [(1, ['M']), (1, [])]⟩
    itemsOf texts = .ok [items.take 2, items.drop 2] ∧
      itemsOf texts' = .ok [items'.take 2, (items'.drop 2).take 1, items'.drop 3] ∧
      items'.Perm items ∧ declare ['X'] (.tuple 1) texts = .ok k ∧
      declare ['X'] (.tuple 1) texts' = .ok k := by
  intro texts texts' items items' k
  have read : itemsOf texts = .ok [items.take 2, items.drop 2] :=
    eq_ok_of_toOption (by decide +kernel)
  have read' : itemsOf texts' = .ok [items'.take 2, (items'.drop 2).take 1, items'.drop 3] :=
    eq_ok_of_toOption (by decide +kernel)
  have perm : items'.Perm items := by decide
  obtain ⟨accepted, reordered⟩ := declare_eq_ok_iff_declares read ['X'] (.tuple 1) k
  obtain ⟨length, chars⟩ := isSentenceId_iff_of_chars.mp (show isSentenceId k.id = true by decide)
  have declares : Declares ['X'] items k :=
    { name_eq := rfl
      id_eq := by decide
      length_id := length
      id_chars := chars
      fields_eq := ⟨false, by decide⟩
      fieldCount_bounds := by decide
      opening_eq := .inr (by decide)
      presets_eq := by decide
      presets_fit := by simp only [← isFieldText_iff]; decide }
  have declared := accepted.mpr ⟨rfl, declares⟩
  exact ⟨read, read', perm, declared, (reordered _ _ read' perm (by decide)).mpr declared⟩

end Nmea.Declaration
