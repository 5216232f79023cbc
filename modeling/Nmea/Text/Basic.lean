/-!
# Texts

Sentences travel as printable ASCII, but any text may be offered for reading, so a text is a list
of characters and every rule about it is a recursion on that list.
-/

namespace Nmea

/-- A text is the list of its characters. -/
abbrev Text := List Char

/-! ### Character classes -/

/-- The printable ASCII characters, from the space to the tilde. -/
def isPrintable (c : Char) : Bool := ' ' ≤ c && c ≤ '~'

/-- Upper-case ASCII letters and digits, of which addresses are made. -/
def isAddressChar (c : Char) : Bool := c.isUpper || c.isDigit

/-- The characters that a field can carry: printable, and no delimiter of the framing. -/
def isFieldChar (c : Char) : Bool := isPrintable c && c != ',' && c != '*'

/-- A text that can stand in a field without changing how the sentence is cut. -/
def isFieldText (t : Text) : Bool := t.all isFieldChar

@[simp] theorem isFieldText_nil : isFieldText [] = true := rfl

@[simp] theorem isFieldText_cons (c : Char) (t : Text) :
    isFieldText (c :: t) = (isFieldChar c && isFieldText t) := rfl

@[simp] theorem isFieldText_append (s t : Text) :
    isFieldText (s ++ t) = (isFieldText s && isFieldText t) := by
  simp [isFieldText]

theorem isPrintable_of_isFieldChar {c : Char} (h : isFieldChar c = true) :
    isPrintable c = true := by
  simp only [isFieldChar, Bool.and_eq_true] at h
  exact h.1.1

/-! ### Lengths in bytes -/

/-- The length of a text in UTF-8 bytes. -/
def utf8Length (t : Text) : Nat := t.foldr (fun c n => c.utf8Size + n) 0

@[simp] theorem utf8Length_cons (c : Char) (t : Text) :
    utf8Length (c :: t) = c.utf8Size + utf8Length t := rfl

/-! ### Cutting at the first of a character -/

/-- The part of a text before the first `c`, or all of it. -/
def textBefore (c : Char) (t : Text) : Text := t.takeWhile (· != c)

/-- The part of a text after the first `c`, if it has one. -/
def textAfter? (c : Char) (t : Text) : Option Text :=
  match t.dropWhile (· != c) with
  | []        => none
  | _ :: rest => some rest

@[simp] theorem textBefore_nil (c : Char) : textBefore c [] = [] := rfl

@[simp] theorem textAfter?_nil (c : Char) : textAfter? c [] = none := rfl

@[simp] theorem textBefore_cons_self (c : Char) (t : Text) : textBefore c (c :: t) = [] := by
  simp [textBefore]

@[simp] theorem textAfter?_cons_self (c : Char) (t : Text) : textAfter? c (c :: t) = some t := by
  simp [textAfter?]

theorem textBefore_cons_ne {c d : Char} (h : d ≠ c) (t : Text) :
    textBefore c (d :: t) = d :: textBefore c t := by
  simp [textBefore, h]

/-- The part before the cut never holds the character that was cut at. -/
theorem not_mem_textBefore (c : Char) (t : Text) : c ∉ textBefore c t := by
  induction t with
  | nil => simp
  | cons d t ih =>
    by_cases h : d = c
    · subst h; simp
    · rw [textBefore_cons_ne h]
      simp only [List.mem_cons, not_or]
      exact ⟨fun e => h e.symm, ih⟩

end Nmea
