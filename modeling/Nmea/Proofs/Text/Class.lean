import Nmea.Text.Basic

/-!
# Classes of characters

The classes as ranges of characters, and which class lies in which. Whole texts inherit both: a
text of one class is a text of every larger one, and holds no character outside its class. The texts
of fields are those that are safe from the framing, character by character (`isFieldText_iff`).
-/

namespace Nmea

variable {p q : Char → Bool} {c : Char} {s t : Text}

/-! ### Texts of a class -/

/-- A character outside a class does not stand in a text of the class. -/
theorem not_mem_of_all (hs : s.all p = true) (hc : p c = false) : c ∉ s := by
  intro h
  rw [List.all_eq_true.mp hs c h] at hc
  cases hc

/-- A text of a class is one of every larger class. -/
theorem all_mono (h : ∀ c, p c = true → q c = true) (hs : s.all p = true) : s.all q = true := by
  rw [List.all_eq_true] at hs ⊢
  intro c hc
  exact h c (hs c hc)

/-! ### The classes as ranges -/

theorem isPrintable_iff : isPrintable c = true ↔ ' ' ≤ c ∧ c ≤ '~' := by
  simp [isPrintable]

theorem isAddressChar_iff :
    isAddressChar c = true ↔ ('A' ≤ c ∧ c ≤ 'Z') ∨ ('0' ≤ c ∧ c ≤ '9') := by
  have upper : c.isUpper = true ↔ 'A' ≤ c ∧ c ≤ 'Z' := decide_eq_true_iff
  have digit : c.isDigit = true ↔ '0' ≤ c ∧ c ≤ '9' := by simp [Char.isDigit, Char.le_def]
  rw [isAddressChar, Bool.or_eq_true, upper, digit]

theorem isPrintable_of_isAddressChar (h : isAddressChar c = true) : isPrintable c = true := by
  rw [isPrintable_iff]
  rcases isAddressChar_iff.mp h with ⟨hl, hu⟩ | ⟨hl, hu⟩
  · exact ⟨Char.le_trans (by decide) hl, Char.le_trans hu (by decide)⟩
  · exact ⟨Char.le_trans (by decide) hl, Char.le_trans hu (by decide)⟩

theorem isFieldChar_of_isAddressChar (h : isAddressChar c = true) : isFieldChar c = true := by
  have comma : c ≠ ',' := fun e => by cases e ▸ h
  have star : c ≠ '*' := fun e => by cases e ▸ h
  simp [isFieldChar, isPrintable_of_isAddressChar h, comma, star]

/-! ### Lengths in bytes -/

/-- The ASCII characters take one byte each. -/
theorem utf8Size_of_toNat_lt (h : c.toNat < 128) : c.utf8Size = 1 :=
  Char.utf8Size_eq_one_iff.mpr (UInt32.le_iff_toNat_le.mpr (Nat.le_of_lt_succ h))

theorem utf8Length_of_ascii (h : t.all (fun c => c.toNat < 128) = true) :
    utf8Length t = t.length := by
  induction t with
  | nil => rfl
  | cons c t ih =>
    rw [List.all_cons, Bool.and_eq_true, decide_eq_true_eq] at h
    rw [utf8Length_cons, utf8Size_of_toNat_lt h.1, ih h.2, List.length_cons, Nat.add_comm]

theorem toNat_lt_of_isPrintable (h : isPrintable c = true) : c.toNat < 128 := by
  have hc : c.toNat ≤ '~'.toNat := UInt32.le_iff_toNat_le.mp (isPrintable_iff.mp h).2
  exact Nat.lt_of_le_of_lt hc (by decide)

/-- Printable characters take one byte each. -/
theorem utf8Size_of_isPrintable (h : isPrintable c = true) : c.utf8Size = 1 :=
  utf8Size_of_toNat_lt (toNat_lt_of_isPrintable h)

theorem ascii_of_isPrintable (h : t.all isPrintable = true) :
    t.all (fun c => c.toNat < 128) = true :=
  all_mono (fun _ hc => decide_eq_true (toNat_lt_of_isPrintable hc)) h

theorem utf8Length_of_isPrintable (h : t.all isPrintable = true) : utf8Length t = t.length :=
  utf8Length_of_ascii (ascii_of_isPrintable h)

/-! ### Texts of fields -/

/-- Every character is printable, and none of them is a delimiter of the framing. -/
def IsFramingSafe (t : Text) : Prop := ∀ c ∈ t, ' ' ≤ c ∧ c ≤ '~' ∧ c ≠ ',' ∧ c ≠ '*'

theorem isFieldText_iff : isFieldText t = true ↔ IsFramingSafe t := by
  simp [isFieldText, isFieldChar, isPrintable, IsFramingSafe, and_assoc]

theorem ascii_of_isFieldText (h : isFieldText t = true) :
    t.all (fun c => c.toNat < 128) = true :=
  ascii_of_isPrintable (all_mono (fun _ => isPrintable_of_isFieldChar) h)

theorem comma_not_mem_of_isFieldText (h : isFieldText t = true) : ',' ∉ t :=
  not_mem_of_all h rfl

end Nmea
