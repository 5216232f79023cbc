import Nmea.Proofs.Number.Decimal

/-!
# The grammar of decimal numbers

A number is read from a whole text exactly if the text is a numeral, that is an optional sign,
digits with at most one point among or around them and perhaps a power of ten, or one of the three
names of the numbers that have no digits (`readBinary_eq_some_iff`).
-/

namespace Nmea

/-! ### Numerals -/

/-- A sign as it is written. -/
def signText : Option Bool → Text
  | none       => []
  | some false => ['+']
  | some true  => ['-']

/-- A power of ten behind a letter. -/
structure Power where
  capital : Bool
  sign : Option Bool
  digits : Text
  all_isDigit : digits.all Char.isDigit = true
  digits_ne_nil : digits ≠ []

namespace Power

def text (p : Power) : Text := (if p.capital then 'E' else 'e') :: (signText p.sign ++ p.digits)

def exponent (p : Power) : Int :=
  if p.sign = some true then -digitsValue p.digits else digitsValue p.digits

end Power

/-- A decimal number as it is written. -/
structure Numeral where
  sign : Option Bool
  whole : Text
  /-- The digits behind the point, if there is a point. -/
  fraction : Option Text
  power : Option Power
  all_isDigit : (whole ++ fraction.getD []).all Char.isDigit = true
  digits_ne_nil : whole ++ fraction.getD [] ≠ []

namespace Numeral

/-- The digits around the point, without it. -/
def digits (n : Numeral) : Text := n.whole ++ n.fraction.getD []

/-- The power of ten at the last digit. -/
def exponent (n : Numeral) : Int := n.power.elim 0 Power.exponent - (n.fraction.getD []).length

/-- The number without its sign. -/
def magnitude (n : Numeral) : Rat := digitsValue n.digits * (10 : Rat) ^ n.exponent

theorem magnitude_nonneg (n : Numeral) : 0 ≤ n.magnitude := by
  rw [magnitude]
  positivity

def isNegative (n : Numeral) : Bool := n.sign = some true

def value (n : Numeral) : Rat := if n.isNegative then -n.magnitude else n.magnitude

def text (n : Numeral) : Text :=
  signText n.sign ++ (n.whole ++ (n.fraction.elim [] ('.' :: ·) ++ n.power.elim [] Power.text))

end Numeral

/-- The number that a whole text stands for. -/
inductive Denotes {f : Format} : Text → Binary f → Prop
  | numeral (n : Numeral) : Denotes n.text (.round n.isNegative n.magnitude)
  | nan {t : Text} (h : t.map Char.toLower = "nan".toList) : Denotes t .nan
  | infinity {t : Text} (h : t.map Char.toLower = "infinity".toList) : Denotes t (.infinite false)
  | inf {t : Text} (h : t.map Char.toLower = "inf".toList) : Denotes t (.infinite false)

variable {f : Format} {x : Binary f} {t rest whole fraction : Text} {sign : Option Bool} {e : Int}

/-! ### Signs -/

theorem spanSign_append (h : ∀ c ∈ t.head?, c ≠ '+' ∧ c ≠ '-') (sign : Option Bool) :
    spanSign (signText sign ++ t) = (sign, t) := by
  match sign with
  | some false | some true => rfl
  | none =>
    match t with
    | [] => rfl
    | c :: t =>
      obtain ⟨plus, minus⟩ := h c rfl
      simp [signText, spanSign, plus, minus]

theorem eq_signText_append (h : spanSign t = (sign, rest)) : t = signText sign ++ rest := by
  unfold spanSign at h
  split at h <;> cases h <;> rfl

theorem ne_sign_of_all_isDigit {digits : Text} (hd : digits.all Char.isDigit = true) :
    ∀ c ∈ digits.head?, c ≠ '+' ∧ c ≠ '-' := by
  intro c hc
  have hc : c.isDigit = true := List.all_eq_true.mp hd c (List.mem_of_mem_head? hc)
  constructor <;> (rintro rfl; cases hc)

/-! ### Powers of ten -/

theorem readExponent_text (p : Power) : readExponent p.text = some (p.exponent, []) := by
  obtain ⟨capital, sign, digits, all_isDigit, digits_ne_nil⟩ := p
  obtain ⟨c, digits, rfl⟩ := List.exists_cons_of_ne_nil digits_ne_nil
  have signed := spanSign_append (ne_sign_of_all_isDigit all_isDigit) sign
  have run := spanDigits_of_all all_isDigit
  cases capital <;> simp [Power.text, Power.exponent, readExponent, signed, run]

theorem readExponent_eq_some_iff : readExponent t = some (e, []) ↔
    ∃ p : Option Power, t = p.elim [] Power.text ∧ e = p.elim 0 Power.exponent := by
  constructor
  · intro h
    match t with
    | [] =>
      cases h
      exact ⟨none, rfl, rfl⟩
    | c :: t =>
      rw [readExponent] at h
      split at h
      · next letter =>
        cases signed : spanSign t with
        | mk sign body =>
          rw [signed] at h
          dsimp only at h
          split at h
          · cases h
          · next digits rest some_digit run =>
            obtain ⟨rfl, rfl⟩ := Prod.mk.inj (Option.some.inj h)
            obtain ⟨rfl, all_isDigit, -⟩ := spanDigits_eq_iff.mp run
            refine ⟨some ⟨c = 'E', sign, digits, all_isDigit, some_digit⟩, ?_, rfl⟩
            rw [eq_signText_append signed]
            simp only [Bool.or_eq_true, decide_eq_true_eq] at letter
            rcases letter with rfl | rfl <;> simp [Power.text]
      · cases h
  · rintro ⟨p, rfl, rfl⟩
    match p with
    | none => rfl
    | some p => exact readExponent_text p

/-! ### Digits around a point -/

theorem readMantissa_append {fraction : Option Text} (hw : whole.all Char.isDigit = true)
    (hf : (fraction.getD []).all Char.isDigit = true) (some_digit : whole ++ fraction.getD [] ≠ [])
    (hr : ∀ c ∈ rest.head?, c.isDigit = false ∧ c ≠ '.') :
    readMantissa (whole ++ (fraction.elim [] ('.' :: ·) ++ rest)) =
      some ((whole, fraction.getD []), rest) := by
  have outside : ∀ c ∈ rest.head?, c.isDigit = false := fun c hc => (hr c hc).1
  match fraction with
  | none =>
    have run := spanDigits_append hw outside
    match whole, some_digit with
    | c :: whole, _ =>
      simp only [Option.elim, List.nil_append, readMantissa, run]
      match rest with
      | [] => rfl
      | d :: rest =>
        have ne : d ≠ '.' := (hr d rfl).2
        simp [ne]
  | some fraction =>
    have run : spanDigits (whole ++ '.' :: (fraction ++ rest)) =
        (whole, '.' :: (fraction ++ rest)) :=
      spanDigits_append hw (by simp)
    have behind : spanDigits (fraction ++ rest) = (fraction, rest) :=
      spanDigits_append hf outside
    simp only [Option.elim, Option.getD, List.cons_append, readMantissa, run]
    match whole, fraction, some_digit with
    | _ :: _, _, _ => simp [behind]
    | [], c :: fraction, _ =>
      rw [List.cons_append] at behind
      simp [behind]

theorem exists_of_readMantissa (h : readMantissa t = some ((whole, fraction), rest)) :
    ∃ point : Option Text, t = whole ++ (point.elim [] ('.' :: ·) ++ rest) ∧
      fraction = point.getD [] ∧ (whole ++ fraction).all Char.isDigit = true ∧
      whole ++ fraction ≠ [] := by
  unfold readMantissa at h
  split at h
  · next run =>
    split at h
    · cases h
    · next some_digit behind =>
      cases h
      obtain ⟨rfl, -, -⟩ := spanDigits_eq_iff.mp run
      obtain ⟨rfl, digits, -⟩ := spanDigits_eq_iff.mp behind
      exact ⟨some fraction, by simp, rfl, digits, some_digit⟩
  · cases h
  · next some_digit run =>
    cases behind : spanDigits _ with
    | mk decimals left =>
      rw [behind] at h
      cases h
      obtain ⟨rfl, digits, -⟩ := spanDigits_eq_iff.mp run
      obtain ⟨rfl, decimals, -⟩ := spanDigits_eq_iff.mp behind
      refine ⟨some fraction, by simp, rfl, by simp [digits, decimals], ?_⟩
      exact fun e => some_digit (List.append_eq_nil_iff.mp e).1
  · next some_digit _ run =>
    cases h
    obtain ⟨rfl, digits, -⟩ := spanDigits_eq_iff.mp run
    exact ⟨none, by simp, rfl, by simpa using digits, by simpa using some_digit⟩

/-! ### Names -/

theorem map_toLower_of_afterWord? {word : Text} (h : afterWord? word t = some []) :
    t.map Char.toLower = word := by
  rw [afterWord?] at h
  split at h
  · next same =>
    have nothing : t.drop word.length = [] := Option.some.inj h
    rwa [List.take_of_length_le (List.drop_eq_nil_iff.mp nothing)] at same
  · cases h

theorem readNamed_eq_some_iff : readNamed t = some (x, []) ↔
    (t.map Char.toLower = "nan".toList ∧ x = .nan) ∨
      (t.map Char.toLower = "infinity".toList ∧ x = .infinite false) ∨
        (t.map Char.toLower = "inf".toList ∧ x = .infinite false) := by
  constructor
  · intro h
    unfold readNamed at h
    split at h
    · next found =>
      cases h
      exact .inl ⟨map_toLower_of_afterWord? found, rfl⟩
    · split at h
      · next found =>
        cases h
        exact .inr (.inl ⟨map_toLower_of_afterWord? found, rfl⟩)
      · split at h
        · next found =>
          cases h
          exact .inr (.inr ⟨map_toLower_of_afterWord? found, rfl⟩)
        · cases h
  · rintro (⟨name, rfl⟩ | ⟨name, rfl⟩ | ⟨name, rfl⟩) <;>
    · have count := congrArg List.length name
      simp at count
      simp [readNamed, afterWord?, List.map_take, name, count]

/-- A text that does not begin as a numeral does is one of the names or no number. -/
theorem readBinary_eq_readNamed
    (h : ∀ c ∈ t.head?, c ≠ '+' ∧ c ≠ '-' ∧ c ≠ '.' ∧ c.isDigit = false) :
    (readBinary t : Option (Binary f × Text)) = readNamed t := by
  have signed : spanSign t = (none, t) :=
    spanSign_append (fun c hc => ⟨(h c hc).1, (h c hc).2.1⟩) none
  have run : spanDigits ([] ++ t) = ([], t) := spanDigits_append rfl fun c hc => (h c hc).2.2.2
  rw [List.nil_append] at run
  have mantissa : readMantissa t = none := by
    rw [readMantissa, run]
    match t with
    | [] => rfl
    | c :: t =>
      have ne : c ≠ '.' := (h c rfl).2.2.1
      simp [ne]
  rw [readBinary, signed]
  dsimp only
  rw [mantissa]

theorem readBinary_name {word : Text} (h : t.map Char.toLower = word)
    (first : word.head? = some 'n' ∨ word.head? = some 'i') :
    (readBinary t : Option (Binary f × Text)) = readNamed t := by
  refine readBinary_eq_readNamed fun c hc => ?_
  have lower : c.toLower = 'n' ∨ c.toLower = 'i' := by
    rw [← h, List.head?_map, Option.mem_def.mp hc] at first
    simpa using first
  refine ⟨?_, ?_, ?_, ?_⟩
  · rintro rfl
    exact absurd lower (by decide)
  · rintro rfl
    exact absurd lower (by decide)
  · rintro rfl
    exact absurd lower (by decide)
  · by_contra digit
    obtain ⟨i, rfl⟩ := exists_digitChar_of_isDigit (Bool.eq_true_of_not_eq_false digit)
    have none_lower : ∀ i : Fin 10, ¬ ((Nat.digitChar i).toLower = 'n' ∨
        (Nat.digitChar i).toLower = 'i') := by
      decide
    exact none_lower i lower

/-! ### Numbers -/

/-- Neither a point nor a power of ten begins with a digit. -/
theorem not_isDigit_of_mem_head? {point : Option Text} {power : Option Power} :
    ∀ c ∈ (point.elim [] ('.' :: ·) ++ power.elim [] Power.text).head?, c.isDigit = false := by
  match point, power with
  | none, none => nofun
  | some _, _ => simp
  | none, some p => cases hp : p.capital <;> simp [Power.text, hp]

theorem toLower_eq_self_of_isDigit {c : Char} (h : c.isDigit = true) : c.toLower = c := by
  obtain ⟨i, rfl⟩ := exists_digitChar_of_isDigit h
  revert i
  decide

/-- What begins with digits and is a number is a numeral with these digits in front. -/
theorem Denotes.exists_numeral (h : Denotes (whole ++ rest) x) (hw : whole.all Char.isDigit = true)
    (some_digit : whole ≠ []) (hr : ∀ c ∈ rest.head?, c.isDigit = false) :
    ∃ n : Numeral, n.sign = none ∧ n.whole = whole ∧
      rest = n.fraction.elim [] ('.' :: ·) ++ n.power.elim [] Power.text ∧
      x = .round false n.magnitude := by
  obtain ⟨c, digits, rfl⟩ := List.exists_cons_of_ne_nil some_digit
  have first : c.isDigit = true := by
    rw [List.all_cons, Bool.and_eq_true] at hw
    exact hw.1
  generalize e : c :: digits ++ rest = t at h
  have no_name {word : Text} (name : t.map Char.toLower = word) : c ∈ word.head? := by
    rw [← name, ← e, List.cons_append, List.map_cons, toLower_eq_self_of_isDigit first]
    rfl
  cases h with
  | nan name =>
    cases no_name name
    cases first
  | infinity name =>
    cases no_name name
    cases first
  | inf name =>
    cases no_name name
    cases first
  | numeral n =>
    obtain ⟨sign, whole, fraction, power, all_isDigit, digits_ne_nil⟩ := n
    match sign with
    | some false | some true =>
      rw [(List.cons.inj e).1] at first
      cases first
    | none =>
      -- the digits in front are one run of digits in both
      rw [List.all_append, Bool.and_eq_true] at all_isDigit
      have run := spanDigits_append hw hr
      rw [e, Numeral.text, signText, List.nil_append,
        spanDigits_append all_isDigit.1 not_isDigit_of_mem_head?, Prod.mk.injEq] at run
      exact ⟨_, rfl, run.1, run.2.symm, rfl⟩

theorem denotes_of_readBinary (h : readBinary t = some (x, [])) : Denotes t x := by
  cases signed : spanSign t with
  | mk sign body =>
    rw [readBinary, signed] at h
    dsimp only at h
    split at h
    · next whole fraction rest mantissa =>
      simp only [bind, pure, Option.bind_eq_some_iff, Prod.exists, Option.some.injEq,
        Prod.mk.injEq] at h
      obtain ⟨exponent, _, read, rfl, rfl⟩ := h
      obtain ⟨power, rfl, rfl⟩ := readExponent_eq_some_iff.mp read
      obtain ⟨point, rfl, rfl, digits, some_digit⟩ := exists_of_readMantissa mantissa
      rw [Binary.ofDecimal_eq_round _ digits, eq_signText_append signed]
      exact .numeral ⟨sign, whole, point, power, digits, some_digit⟩
    · rcases readNamed_eq_some_iff.mp h with ⟨name, rfl⟩ | ⟨name, rfl⟩ | ⟨name, rfl⟩
      · exact .nan name
      · exact .infinity name
      · exact .inf name

theorem readBinary_text (n : Numeral) :
    (readBinary n.text : Option (Binary f × Text)) =
      some (.round n.isNegative n.magnitude, []) := by
  obtain ⟨sign, whole, fraction, power, digits, some_digit⟩ := n
  have both := digits
  rw [List.all_append, Bool.and_eq_true] at both
  -- neither the power of ten nor the digits can be taken for what stands in front of them
  have letter : ∀ c ∈ (power.elim [] Power.text).head?, c.isDigit = false ∧ c ≠ '.' := by
    match power with
    | none => nofun
    | some p => cases hp : p.capital <;> simp [Power.text, hp]
  have unsigned : ∀ c ∈ (whole ++ (fraction.elim [] ('.' :: ·) ++
      power.elim [] Power.text)).head?, c ≠ '+' ∧ c ≠ '-' := by
    match whole, fraction, some_digit with
    | _ :: _, _, _ => simpa using ne_sign_of_all_isDigit both.1
    | [], some fraction, _ => simp
  have exponent := readExponent_eq_some_iff.mpr ⟨power, rfl, rfl⟩
  rw [readBinary, Numeral.text, spanSign_append unsigned]
  dsimp only
  rw [readMantissa_append both.1 both.2 some_digit letter]
  dsimp only
  rw [exponent]
  exact congrArg (fun y => some (y, [])) (Binary.ofDecimal_eq_round _ digits _)

theorem readBinary_eq_some_iff :
    (readBinary t : Option (Binary f × Text)) = some (x, []) ↔ Denotes t x := by
  constructor
  · exact denotes_of_readBinary
  · intro h
    cases h with
    | numeral n => exact readBinary_text n
    | nan name =>
      rw [readBinary_name name (.inl rfl)]
      exact readNamed_eq_some_iff.mpr (.inl ⟨name, rfl⟩)
    | infinity name =>
      rw [readBinary_name name (.inr rfl)]
      exact readNamed_eq_some_iff.mpr (.inr (.inl ⟨name, rfl⟩))
    | inf name =>
      rw [readBinary_name name (.inr rfl)]
      exact readNamed_eq_some_iff.mpr (.inr (.inr ⟨name, rfl⟩))

end Nmea
