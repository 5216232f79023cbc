import Nmea.Text.Basic

/-!
# Cutting and joining texts

A run of characters of a class ends where the class ends, a text is cut at the first of a character
and put together again, and fields are joined with commas and cut at them. Each operation is the
inverse of the other on the texts that cannot be cut in the wrong place.
-/

namespace Nmea

variable {p : Char → Bool} {c : Char} {s t : Text} {fields : List Text}

/-! ### Runs of a class -/

/-- Nothing is taken from a text that begins outside the class. -/
theorem takeWhile_eq_nil (ht : ∀ d ∈ t.head?, p d = false) : t.takeWhile p = [] := by
  cases t with
  | nil => rfl
  | cons d t =>
    have hd : ¬ p d = true := by rw [ht d rfl]; exact Bool.false_ne_true
    exact List.takeWhile_cons_of_neg hd

/-- A run is taken as it is if what follows begins outside its class. -/
theorem takeWhile_append_stop (hs : s.all p = true) (ht : ∀ d ∈ t.head?, p d = false) :
    (s ++ t).takeWhile p = s := by
  rw [List.takeWhile_append_of_pos (List.all_eq_true.mp hs), takeWhile_eq_nil ht, List.append_nil]

/-- What follows a run is what is left of it. -/
theorem dropWhile_append_stop (hs : s.all p = true) (ht : ∀ d ∈ t.head?, p d = false) :
    (s ++ t).dropWhile p = t := by
  have h := List.takeWhile_append_dropWhile (p := p) (l := s ++ t)
  rw [takeWhile_append_stop hs ht] at h
  exact List.append_cancel_left h

/-! ### Cutting at the first of a character -/

theorem textBefore_append (h : c ∉ s) : textBefore c (s ++ t) = s ++ textBefore c t := by
  rw [textBefore, textBefore, List.takeWhile_append_of_pos]
  intro d hd
  exact bne_iff_ne.mpr fun e => h (e ▸ hd)

theorem textAfter?_append (h : c ∉ s) : textAfter? c (s ++ t) = textAfter? c t := by
  rw [textAfter?, textAfter?, List.dropWhile_append_of_pos]
  intro d hd
  exact bne_iff_ne.mpr fun e => h (e ▸ hd)

theorem textBefore_append_cons (h : c ∉ s) : textBefore c (s ++ c :: t) = s := by
  rw [textBefore_append h, textBefore_cons_self, List.append_nil]

theorem textAfter?_append_cons (h : c ∉ s) : textAfter? c (s ++ c :: t) = some t := by
  rw [textAfter?_append h, textAfter?_cons_self]

/-- What follows the first of a character has no part in what comes before it. -/
theorem textBefore_append_of_mem (h : c ∈ s) : textBefore c (s ++ t) = textBefore c s := by
  obtain ⟨u, w, rfl, hu⟩ := List.eq_append_cons_of_mem h
  rw [List.append_assoc, List.cons_append, textBefore_append_cons hu, textBefore_append_cons hu]

theorem textBefore_of_not_mem (h : c ∉ s) : textBefore c s = s := by
  simpa using textBefore_append (t := []) h

theorem textAfter?_of_not_mem (h : c ∉ s) : textAfter? c s = none := by
  simpa using textAfter?_append (t := []) h

/-- The two parts of a cut make the text again. -/
theorem eq_append_of_textAfter? (h : textAfter? c s = some t) : s = textBefore c s ++ c :: t := by
  by_cases hc : c ∈ s
  · obtain ⟨u, w, rfl, hu⟩ := List.eq_append_cons_of_mem hc
    rw [textAfter?_append_cons hu, Option.some.injEq] at h
    rw [textBefore_append_cons hu, h]
  · rw [textAfter?_of_not_mem hc] at h
    cases h

/-- A text that is not cut is its own first part. -/
theorem eq_textBefore_of_textAfter? (h : textAfter? c s = none) : s = textBefore c s := by
  by_cases hc : c ∈ s
  · obtain ⟨u, w, rfl, hu⟩ := List.eq_append_cons_of_mem hc
    rw [textAfter?_append_cons hu] at h
    cases h
  · exact (textBefore_of_not_mem hc).symm

theorem length_textBefore_le (c : Char) (t : Text) : (textBefore c t).length ≤ t.length :=
  (List.takeWhile_prefix _).length_le

/-- In front of a position before the cut there is no character to cut at, nor is one there. -/
theorem not_mem_of_lt_length_textBefore {d : Char}
    (h : s.length < (textBefore c (s ++ d :: t)).length) : c ∉ s ∧ d ≠ c := by
  have hs : c ∉ s := by
    intro hm
    rw [textBefore_append_of_mem hm] at h
    exact absurd (length_textBefore_le c s) (Nat.not_le.mpr h)
  refine ⟨hs, ?_⟩
  rintro rfl
  rw [textBefore_append_cons hs] at h
  exact Nat.lt_irrefl _ h

/-- In front of a position behind the cut there is the character that was cut at. -/
theorem mem_of_length_textBefore_lt (h : (textBefore c (s ++ t)).length < s.length) : c ∈ s := by
  refine Classical.byContradiction fun hs => ?_
  rw [textBefore_append hs, List.length_append] at h
  exact absurd (Nat.le_add_right s.length _) (Nat.not_le.mpr h)

/-- A text is cut at the first of a character in one way only. -/
theorem append_cons_inj {s' t' : Text} (hs : c ∉ s) (hs' : c ∉ s')
    (h : s ++ c :: t = s' ++ c :: t') : s = s' ∧ t = t' := by
  have before := congrArg (textBefore c) h
  have after := congrArg (textAfter? c) h
  rw [textBefore_append_cons hs, textBefore_append_cons hs'] at before
  rw [textAfter?_append_cons hs, textAfter?_append_cons hs'] at after
  exact ⟨before, Option.some.inj after⟩

/-! ### Fields and commas -/

/-- Fields with a comma in front of each are one comma and the fields joined with commas. -/
theorem flatMap_comma (h : fields ≠ []) :
    fields.flatMap (fun field => ',' :: field) = ',' :: [','].intercalate fields := by
  induction fields with
  | nil => exact absurd rfl h
  | cons field fields ih =>
    by_cases hf : fields = []
    · subst hf
      simp
    · rw [List.flatMap_cons, ih hf, List.intercalate_cons_of_ne_nil hf]
      simp

/-- Joined fields hold only commas and what the fields hold. -/
theorem mem_intercalate_comma (h : c ∈ [','].intercalate fields) :
    c = ',' ∨ ∃ field ∈ fields, c ∈ field := by
  by_cases hf : fields = []
  · rw [hf] at h
    cases h
  · have hc : c ∈ fields.flatMap fun field => ',' :: field := by
      rw [flatMap_comma hf]
      exact List.mem_cons_of_mem ',' h
    obtain ⟨field, hm, hc⟩ := List.mem_flatMap.mp hc
    rcases List.mem_cons.mp hc with rfl | hc
    · exact .inl rfl
    · exact .inr ⟨field, hm, hc⟩

/-- A part between two cuts holds only what the text holds, and nothing that was cut at. -/
theorem mem_and_ne_of_mem_splitOn {d : Char} (hs : s ∈ t.splitOn c) (hd : d ∈ s) :
    d ∈ t ∧ d ≠ c := by
  induction t generalizing s with
  | nil =>
    rw [List.splitOn_nil, List.mem_singleton] at hs
    rw [hs] at hd
    cases hd
  | cons e t ih =>
    rw [List.splitOn_cons_eq_if_modifyHead] at hs
    split at hs
    · rcases List.mem_cons.mp hs with rfl | hs
      · cases hd
      · exact ⟨List.mem_cons_of_mem e (ih hs hd).1, (ih hs hd).2⟩
    · next he =>
      -- the character belongs to the first part of what follows it
      obtain ⟨first, rest, h⟩ := List.exists_cons_of_ne_nil (List.splitOn_ne_nil c t)
      rw [h, List.modifyHead_cons] at hs
      rw [h] at ih
      rcases List.mem_cons.mp hs with rfl | hs
      · rcases List.mem_cons.mp hd with rfl | hd
        · exact ⟨List.mem_cons_self, fun e => he (beq_iff_eq.mpr e)⟩
        · have := ih List.mem_cons_self hd
          exact ⟨List.mem_cons_of_mem e this.1, this.2⟩
      · have := ih (List.mem_cons_of_mem first hs) hd
        exact ⟨List.mem_cons_of_mem e this.1, this.2⟩

/-- There is one field more than there are commas. -/
theorem length_splitOn (c : Char) (t : Text) : (t.splitOn c).length = t.count c + 1 := by
  induction t with
  | nil => simp
  | cons d t ih =>
    rw [List.splitOn_cons_eq_if_modifyHead, List.count_cons]
    split <;> simp [ih]

end Nmea
