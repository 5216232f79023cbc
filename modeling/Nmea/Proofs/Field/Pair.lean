import Nmea.Field.Clock
import Nmea.Proofs.Field.Integer

/-!
# Pairs of characters

The parts of a time and of a date are read from two characters each. The first of the two has to
be a digit; the second is passed over if it is not. A part is written as two digits, so that it is
written as the pair that it was read from exactly if nothing was passed over.
-/

namespace Nmea

/-- The number that is read from two characters. -/
inductive IsPair : Text → Nat → Prop
  | both {a b : Char} (ha : a.isDigit = true) (hb : b.isDigit = true) :
    IsPair [a, b] (digitsValue [a, b])
  | first {a b : Char} (ha : a.isDigit = true) (hb : b.isDigit = false) :
    IsPair [a, b] (digitsValue [a])

variable {pair rest t : Text} {n : Nat} {m : UInt8} {a b : Char}

theorem IsPair.lt (h : IsPair pair n) : n < 100 := by
  cases h with
  | @both a b ha hb =>
    have digits : [a, b].all Char.isDigit = true := by simp [ha, hb]
    exact digitsValue_lt digits
  | @first a b ha hb =>
    have digits : [a].all Char.isDigit = true := by simp [ha]
    have lt : digitsValue [a] < 10 := digitsValue_lt digits
    omega

theorem IsPair.length_eq (h : IsPair pair n) : pair.length = 2 := by
  cases h <;> rfl

theorem isPair_of_all_isDigit (count : pair.length = 2) (digits : pair.all Char.isDigit = true) :
    IsPair pair (digitsValue pair) := by
  match pair, count with
  | [a, b], _ =>
    simp only [List.all_cons, List.all_nil, Bool.and_true, Bool.and_eq_true] at digits
    exact .both digits.1 digits.2

/-- A byte holds the number of a pair. -/
theorem IsPair.toNat_ofNat (h : IsPair pair n) : (UInt8.ofNat n).toNat = n := by
  have := h.lt
  rw [UInt8.toNat_ofNat', Nat.mod_eq_of_lt (by omega)]

/-! ### Reading -/

namespace TimeOfDay

theorem readPair_append (h : IsPair pair n) (rest : Text) :
    readPair (pair ++ rest) = some (.ofNat n, rest) := by
  have word : (FixedWidth.ofInt? n : Option UInt8) = some (.ofNat n) := by
    have := h.lt
    rw [FixedWidth.ofInt?, if_pos]
    · rfl
    · show (decide ((0 : Int) ≤ n) && decide ((n : Int) ≤ 255)) = true
      simp
      omega
  cases h with
  | @both a b ha hb =>
    have digits : [a, b].all Char.isDigit = true := by simp [ha, hb]
    have read := FixedWidth.read_of_all_isDigit (α := UInt8) digits (List.cons_ne_nil _ _)
    rw [word] at read
    exact congrArg (Option.map fun p => (p.1, rest)) read
  | @first a b ha hb =>
    have digits : [a].all Char.isDigit = true := by simp [ha]
    have stop : ∀ c ∈ [b].head?, c.isDigit = false := by simp [hb]
    have read := FixedWidth.read_append (α := UInt8) digits (List.cons_ne_nil _ _) stop
    rw [word] at read
    exact congrArg (Option.map fun p => (p.1, rest)) read

theorem isDigit_of_readPair (h : readPair (a :: b :: t) = some (m, rest)) :
    a.isDigit = true := by
  cases ha : a.isDigit with
  | true => rfl
  | false =>
    have nothing : (FieldValue.read [a, b] : Option (UInt8 × Text)) = none :=
      FixedWidth.read_eq_none (Int.lt_irrefl 0) (by simp [ha])
    rw [readPair, nothing] at h
    cases h

/-- The parts of a time and of a date are read from pairs. -/
theorem readPair_eq_some_iff :
    readPair t = some (m, rest) ↔ ∃ pair, t = pair ++ rest ∧ IsPair pair m.toNat := by
  constructor
  · intro h
    match t, h with
    | a :: b :: t, h =>
      have ha := isDigit_of_readPair h
      obtain ⟨n, pair⟩ : ∃ n, IsPair [a, b] n := by
        cases hb : b.isDigit with
        | true => exact ⟨_, .both ha hb⟩
        | false => exact ⟨_, .first ha hb⟩
      have read := readPair_append pair t
      obtain ⟨rfl, rfl⟩ := Prod.mk.inj (Option.some.inj (read.symm.trans h))
      exact ⟨[a, b], rfl, pair.toNat_ofNat.symm ▸ pair⟩
  · rintro ⟨pair, rfl, h⟩
    rw [readPair_append h, UInt8.ofNat_toNat]

end TimeOfDay

/-! ### Writing -/

/-- Two digits are read as the number that was written. -/
theorem isPair_padded (h : n < 100) : IsPair (padded 2 n) n := by
  have pair := isPair_of_all_isDigit (length_padded (by decide) h) (all_isDigit_padded 2 n)
  rwa [digitsValue_padded] at pair

/-- Numbers below one hundred are written as two digits. -/
theorem IsPair.padded_two (h : IsPair pair n) :
    (padded 2 n).length = 2 ∧ (padded 2 n).all Char.isDigit = true :=
  ⟨length_padded (by decide) h.lt, all_isDigit_padded 2 n⟩

theorem IsPair.padded_eq_iff (h : IsPair pair n) :
    padded 2 n = pair ↔ pair.all Char.isDigit = true := by
  cases h with
  | both ha hb =>
    obtain ⟨i, rfl⟩ := exists_digitChar_of_isDigit ha
    obtain ⟨j, rfl⟩ := exists_digitChar_of_isDigit hb
    revert i j
    decide
  | @first a b ha hb =>
    have written : padded 2 (digitsValue [a]) = ['0', a] := by
      obtain ⟨i, rfl⟩ := exists_digitChar_of_isDigit ha
      revert i
      decide
    rw [written]
    simp only [List.all_cons, ha, hb, Bool.false_and, Bool.and_false, Bool.false_eq_true, iff_false]
    rintro ⟨⟩
    exact Bool.false_ne_true (hb.symm.trans ha)

end Nmea
