import Nmea.Number.Notation
import Nmea.Proofs.Number.Nearest
import Nmea.Proofs.Number.Reading

/-!
# Shortest digits

The shortest decimal digits of a binary number lie between the middles towards its neighbours, so
that the number is read again from them; there are always such digits
(`Format.exists_shortest`). Therefore every binary number is read from its plain text, except for
the infinity on the negative side, whose text has a sign in front of a name (`denotes_plain`).
-/

namespace Nmea

variable {f : Format} {x : Rat} {rank count n : Nat} {e : Int} {d : Decimal}

/-! ### Powers of ten -/

theorem floor_toNat_mem (hx : 0 ≤ x) : (x.floor.toNat : Rat) ≤ x ∧ x < x.floor.toNat + 1 := by
  have floor : ((x.floor.toNat : Int) : Rat) = x.floor := by
    have : 0 ≤ x.floor := Rat.le_floor_iff.mpr (by simpa using hx)
    rw [Int.toNat_of_nonneg this]
  rw [Int.cast_natCast] at floor
  rw [floor]
  exact ⟨Rat.floor_le x, by exact_mod_cast Rat.lt_floor_add_one x⟩

theorem ten_zpow_leadingTen_le (hx : 0 < x) : (10 : Rat) ^ leadingTen x ≤ x := by
  rw [leadingTen]
  split
  · next one =>
    have whole := floor_toNat_mem hx.le
    have some_whole : 0 < x.floor.toNat := by
      by_contra! none
      rw [Nat.le_zero.mp none] at whole
      norm_num at whole
      linarith
    have := List.length_pos_iff.mpr (decimal_ne_nil x.floor.toNat)
    have low : (10 : Rat) ^ ((decimal x.floor.toNat).length - 1) ≤ x.floor.toNat := by
      exact_mod_cast ten_pow_le_of_length_decimal some_whole
    rw [← Nat.cast_pred this, zpow_natCast]
    exact low.trans whole.1
  · dsimp only
    split
    · assumption
    · have whole := (floor_toNat_mem (inv_pos.mpr hx).le).2
      have high : (x⁻¹.floor.toNat : Rat) + 1 ≤ 10 ^ (decimal x⁻¹.floor.toNat).length := by
        exact_mod_cast lt_ten_pow_length_decimal x⁻¹.floor.toNat
      rw [zpow_neg, zpow_natCast]
      exact inv_le_of_inv_le₀ hx (whole.le.trans high)

/-! ### Digits and a power of ten -/

namespace Decimal

/-- The number that digits behind a point and a power of ten stand for. -/
def value (d : Decimal) : Rat := digitsValue d.digits * (10 : Rat) ^ (d.point - d.digits.length)

/-- Only zeros are dropped at the end of a number. -/
theorem exists_zeros (n : Nat) (e : Int) :
    ∃ zeros, decimal n = (ofScaled n e).digits ++ zeros ∧ digitsValue zeros = 0 := by
  refine ⟨((decimal n).reverse.takeWhile (· = '0')).reverse, ?_, ?_⟩
  · rw [ofScaled]
    dsimp only
    rw [← List.reverse_append, List.takeWhile_append_dropWhile, List.reverse_reverse]
  · exact digitsValue_eq_zero (by rw [List.all_reverse]; exact List.all_takeWhile)

theorem value_ofScaled (n : Nat) (e : Int) : (ofScaled n e).value = n * (10 : Rat) ^ e := by
  obtain ⟨zeros, written, nothing⟩ := exists_zeros n e
  have number : (10 ^ zeros.length * digitsValue (ofScaled n e).digits : Rat) = n := by
    have whole := digitsValue_append (ofScaled n e).digits zeros
    rw [← written, digitsValue_decimal, nothing, Nat.add_zero] at whole
    exact_mod_cast whole.symm
  have place : (ofScaled n e).point - (ofScaled n e).digits.length = zeros.length + e := by
    show ((decimal n).length : Int) + e - _ = _
    rw [written, List.length_append]
    push_cast
    ring
  rw [value, place, zpow_add₀ (by norm_num), zpow_natCast, ← number]
  ring

theorem digits_ofScaled_ne_nil (hn : 0 < n) (e : Int) : (ofScaled n e).digits ≠ [] := by
  intro none
  obtain ⟨zeros, written, nothing⟩ := exists_zeros n e
  have := digitsValue_decimal n
  rw [written, none, List.nil_append, nothing] at this
  omega

theorem all_isDigit_digits_ofScaled (n : Nat) (e : Int) :
    (ofScaled n e).digits.all Char.isDigit = true := by
  obtain ⟨zeros, written, -⟩ := exists_zeros n e
  have digits := all_isDigit_decimal n
  rw [written, List.all_append, Bool.and_eq_true] at digits
  exact digits.1

/-- Zeros in front of the digits change nothing, and zeros behind them only the place of the
point. -/
theorem magnitude_eq_value {m : Numeral} (front behind : Text) (hf : front.all (· = '0') = true)
    (hb : behind.all (· = '0') = true) (digits : m.digits = front ++ (d.digits ++ behind))
    (exponent : m.exponent + behind.length = d.point - d.digits.length) :
    m.magnitude = d.value := by
  have number : digitsValue m.digits = 10 ^ behind.length * digitsValue d.digits := by
    rw [digits, digitsValue_append, digitsValue_eq_zero hf, Nat.mul_zero, Nat.zero_add,
      digitsValue_append, digitsValue_eq_zero hb, Nat.add_zero]
  rw [Numeral.magnitude, value, number, ← exponent, zpow_add₀ (by norm_num), zpow_natCast]
  push_cast
  ring

/-- Digits around a point at their place are a numeral. -/
theorem exists_numeral_positional (sign : Option Bool) (hd : d.digits.all Char.isDigit = true)
    (hn : d.digits ≠ []) : ∃ m : Numeral, m.sign = sign ∧
      m.text = signText sign ++ positional .plain d ∧ m.magnitude = d.value := by
  by_cases small : d.point ≤ 0
  · let zeros := List.replicate (-d.point).toNat '0'
    let m : Numeral :=
      ⟨sign, ['0'], some (zeros ++ d.digits), none, by simp [zeros, hd], by simp⟩
    have exponent : m.exponent + 0 = d.point - d.digits.length := by
      simp [m, zeros, Numeral.exponent]
      omega
    refine ⟨m, rfl, by simp [m, Numeral.text, positional, small, zeros], ?_⟩
    exact magnitude_eq_value ('0' :: zeros) [] (by simp [zeros]) rfl
      (by simp [m, Numeral.digits]) exponent
  by_cases whole : d.digits.length ≤ d.point.toNat
  · let zeros := List.replicate (d.point.toNat - d.digits.length) '0'
    let m : Numeral := ⟨sign, d.digits ++ zeros, none, none, by simp [zeros, hd], by simp [hn]⟩
    have exponent : m.exponent + zeros.length = d.point - d.digits.length := by
      simp [m, zeros, Numeral.exponent]
      omega
    refine ⟨m, rfl, ?_, ?_⟩
    · simp [m, Numeral.text, positional, small, whole, zeros, DecimalStyle.plain]
    · exact magnitude_eq_value [] zeros rfl (by simp [zeros]) (by simp [m, Numeral.digits]) exponent
  · let m : Numeral := ⟨sign, d.digits.take d.point.toNat, some (d.digits.drop d.point.toNat), none,
      by simpa using hd, by simpa using hn⟩
    have exponent : m.exponent + 0 = d.point - d.digits.length := by
      simp [m, Numeral.exponent]
      omega
    refine ⟨m, rfl, by simp [m, Numeral.text, positional, small, whole], ?_⟩
    exact magnitude_eq_value [] [] rfl rfl (by simp [m, Numeral.digits]) exponent

end Decimal

/-! ### The shortest digits of a magnitude -/

namespace Format

variable (f)

theorem exponent_le (rank : Nat) : f.exponent rank ≤ f.exponent (rank - 1) + 1 := by
  have next : rank / f.binade ≤ (rank - 1) / f.binade + 1 := by
    rw [← Nat.add_div_right _ f.binade_pos]
    exact Nat.div_le_div_right (by have := f.binade_pos; omega)
  rw [exponent, exponent]
  omega

/-- Where there are as many digits as a significand has bits, a step of the last digit is at most
half the distance to the magnitude before. -/
theorem ten_zpow_le_half_step (rank : Nat) :
    (10 : Rat) ^ (leadingTen (f.magnitude (rank + 1)) - (f.fractionBits + 2 : Nat) + 1) ≤
      (f.magnitude (rank + 1) - f.magnitude rank) / 2 := by
  have pos : 0 < f.magnitude (rank + 1) :=
    (f.magnitude_nonneg rank).trans_lt (f.strictMono_magnitude (Nat.lt_succ_self _))
  have unit_pos : (0 : Rat) <
      10 ^ (leadingTen (f.magnitude (rank + 1)) - (f.fractionBits + 2 : Nat) + 1) := by positivity
  have tens : (8 * 2 ^ f.fractionBits : Rat) ≤ 10 ^ (f.fractionBits + 1) := by
    rw [pow_succ, mul_comm]
    gcongr <;> norm_num
  have leading := ten_zpow_leadingTen_le pos
  have exponent : f.exponent (rank + 1) ≤ f.exponent rank + 1 := f.exponent_le (rank + 1)
  have significand : (f.significand (rank + 1) : Rat) ≤ 2 * 2 ^ f.fractionBits := by
    exact_mod_cast (f.significand_lt (rank + 1)).le
  have bits : f.magnitude (rank + 1) ≤ 4 * 2 ^ f.fractionBits * 2 ^ f.exponent rank := by
    calc f.magnitude (rank + 1)
        ≤ 2 * 2 ^ f.fractionBits * (2 : Rat) ^ (f.exponent rank + 1) := by
          rw [magnitude]
          gcongr
          norm_num
      _ = 4 * 2 ^ f.fractionBits * 2 ^ f.exponent rank := by
          rw [zpow_add_one₀ (by norm_num)]
          ring
  have tenth : (10 : Rat) ^ (leadingTen (f.magnitude (rank + 1)) - (f.fractionBits + 2 : Nat) + 1) *
      10 ^ (f.fractionBits + 1) = 10 ^ leadingTen (f.magnitude (rank + 1)) := by
    rw [← zpow_natCast, ← zpow_add₀ (by norm_num)]
    congr 1
    push_cast
    ring
  generalize (10 : Rat) ^ (leadingTen (f.magnitude (rank + 1)) - (f.fractionBits + 2 : Nat) + 1) =
    unit at *
  have scaled : unit * (8 * 2 ^ f.fractionBits) ≤ 4 * 2 ^ f.fractionBits * 2 ^ f.exponent rank :=
    (mul_le_mul_of_nonneg_left tens unit_pos.le).trans (tenth.le.trans (leading.trans bits))
  have binade : (0 : Rat) < 4 * 2 ^ f.fractionBits := by positivity
  rw [magnitude_succ, add_sub_cancel_left, le_div_iff₀ (by norm_num)]
  refine le_of_mul_le_mul_left ?_ binade
  linarith

/-- So many digits are enough to tell a magnitude from its neighbours. -/
theorem rounds_of_enough_digits (hr : 0 < rank) {unit : Rat}
    (hu : unit = (10 : Rat) ^ (leadingTen (f.magnitude rank) - (f.fractionBits + 2 : Nat) + 1)) :
    f.rounds rank ((f.magnitude rank / unit).floor.toNat * unit) = true := by
  obtain ⟨previous, rfl⟩ := Nat.exists_eq_add_of_lt hr
  rw [Nat.zero_add] at *
  have unit_pos : 0 < unit := by
    rw [hu]
    positivity
  have next := f.strictMono_magnitude (Nat.lt_succ_self (previous + 1))
  have step := f.ten_zpow_le_half_step previous
  obtain ⟨low, high⟩ := floor_toNat_mem
    (div_nonneg (f.magnitude_nonneg (previous + 1)) unit_pos.le)
  rw [le_div_iff₀ unit_pos] at low
  rw [div_lt_iff₀ unit_pos] at high
  rw [← hu] at step
  rw [rounds, Nat.add_sub_cancel]
  split <;> simp only [Bool.and_eq_true, decide_eq_true_eq] <;> constructor <;> linarith

theorem exists_of_withDigits? (hr : 0 < rank) (hc : 0 < count)
    (h : f.withDigits? rank count = some d) :
    ∃ n e, 0 < n ∧ d = .ofScaled n e ∧ f.rounds rank (n * (10 : Rat) ^ e) = true := by
  have pos : 0 < f.magnitude rank := by
    simpa using f.strictMono_magnitude hr
  have some_digit : 0 < (f.magnitude rank /
      (10 : Rat) ^ (leadingTen (f.magnitude rank) - count + 1)).floor.toNat := by
    have unit_pos : (0 : Rat) < 10 ^ (leadingTen (f.magnitude rank) - count + 1) := by positivity
    have one : 1 ≤ f.magnitude rank / (10 : Rat) ^ (leadingTen (f.magnitude rank) - count + 1) := by
      rw [one_le_div₀ unit_pos]
      refine le_trans ?_ (ten_zpow_leadingTen_le pos)
      exact zpow_le_zpow_right₀ (by norm_num) (by omega)
    have whole := floor_toNat_mem (zero_le_one.trans one)
    by_contra! none
    rw [Nat.le_zero.mp none] at whole
    norm_num at whole
    linarith
  rw [withDigits?] at h
  split at h
  · next low high =>
    cases h
    refine ⟨_, _, ?_, rfl, ?_⟩
    · split <;> omega
    · split
      · exact low
      · exact_mod_cast high
  · next low _ =>
    cases h
    exact ⟨_, _, some_digit, rfl, low⟩
  · next _ high =>
    cases h
    exact ⟨_, _, Nat.succ_pos _, rfl, by exact_mod_cast high⟩
  · cases h

/-- The shortest digits of a magnitude are rounded to it. -/
theorem exists_shortest (hr : 0 < rank) :
    ∃ n e, 0 < n ∧ f.shortest rank = .ofScaled n e ∧ f.rounds rank (n * (10 : Rat) ^ e) = true := by
  have enough : (f.withDigits? rank (f.fractionBits + 2)).isSome = true := by
    have low := f.rounds_of_enough_digits hr rfl
    rw [withDigits?, low]
    split
    · rfl
    · rfl
    · next none _ => cases none
    · next none _ => cases none
  have found :
      ((List.range' 1 (f.fractionBits + 2)).findSome? (f.withDigits? rank)).isSome = true :=
    List.findSome?_isSome_iff.mpr ⟨_, List.mem_range'_1.mpr (by omega), enough⟩
  obtain ⟨d, hd⟩ := Option.isSome_iff_exists.mp found
  obtain ⟨count, hc, digits⟩ := List.exists_of_findSome?_eq_some hd
  obtain ⟨n, e, hn, rfl, rounds⟩ :=
    f.exists_of_withDigits? hr (List.mem_range'_1.mp hc).1 digits
  exact ⟨n, e, hn, by rw [shortest, hd]; rfl, rounds⟩

end Format

/-! ### Plain texts -/

namespace Binary

variable {b : Binary f}

/-- A finite number is written as a numeral that it is the nearest number to. -/
theorem exists_numeral_plain (bits : 0 < f.fractionBits) (negative : Bool)
    (rank : Fin f.finiteCount) : ∃ m : Numeral, m.text = (finite negative rank).plain ∧
      (round m.isNegative m.magnitude : Binary f) = finite negative rank := by
  let sign := if negative then some true else none
  have minus : signText sign = if negative then ['-'] else [] := by
    cases negative <;> rfl
  have isNegative : decide (sign = some true) = negative := by
    cases negative <;> rfl
  by_cases zero : (rank : Nat) = 0
  · refine ⟨⟨sign, ['0'], none, none, rfl, by simp⟩, ?_, ?_⟩
    · simp [Numeral.text, plain, text, zero, minus, zeroText, DecimalStyle.plain]
    · have nothing : digitsValue ['0'] = 0 := rfl
      simp only [Numeral.isNegative, isNegative, Numeral.magnitude, Numeral.digits,
        Option.getD_none, List.append_nil, nothing, Nat.cast_zero, zero_mul]
      exact round_eq_finite_of_nearest negative zero.symm
  · have hr : 0 < (rank : Nat) := Nat.pos_of_ne_zero zero
    obtain ⟨n, e, hn, short, rounds⟩ := f.exists_shortest hr
    obtain ⟨m, hs, text_eq, magnitude⟩ := Decimal.exists_numeral_positional sign
      (Decimal.all_isDigit_digits_ofScaled n e) (Decimal.digits_ofScaled_ne_nil hn e)
    rw [Decimal.value_ofScaled] at magnitude
    have nearest := (f.nearest_eq_iff_rounds bits hr (by positivity)).mpr rounds
    refine ⟨m, ?_, ?_⟩
    · rw [text_eq, plain, text, if_neg zero, ← short, minus]
      rfl
    · rw [Numeral.isNegative, hs, isNegative, magnitude]
      exact round_eq_finite_of_nearest negative nearest

/-- Every number but the negative infinity is read from its plain text. -/
theorem denotes_plain (bits : 0 < f.fractionBits) (h : b ≠ .infinite true) :
    Denotes b.plain b := by
  match b with
  | .nan => exact .nan rfl
  | .infinite false => exact .inf rfl
  | .infinite true => exact absurd rfl h
  | .finite negative rank =>
    obtain ⟨m, written, nearest⟩ := exists_numeral_plain bits negative rank
    rw [← written, ← nearest]
    exact .numeral m

/-! ### Texts of fields -/

theorem isFieldText_numeral (m : Numeral) : isFieldText m.text = true := by
  obtain ⟨sign, whole, fraction, power, digits, -⟩ := m
  rw [List.all_append, Bool.and_eq_true] at digits
  have whole_fits := isFieldText_of_all_isDigit digits.1
  have fraction_fits := isFieldText_of_all_isDigit digits.2
  have sign_fits : ∀ sign, isFieldText (signText sign) = true := by rintro (_ | _ | _) <;> rfl
  have point : isFieldChar '.' = true := rfl
  have capital : isFieldChar 'E' = true := rfl
  have small : isFieldChar 'e' = true := rfl
  simp only [Numeral.text, isFieldText_append, sign_fits, whole_fits, Bool.true_and,
    Bool.and_eq_true]
  constructor
  · cases fraction with
    | none => rfl
    | some fraction => rwa [Option.elim, isFieldText_cons, point, Bool.true_and]
  · cases power with
    | none => rfl
    | some p =>
      have digits_fit := isFieldText_of_all_isDigit p.all_isDigit
      cases hp : p.capital <;>
        simp [Power.text, hp, capital, small, sign_fits, digits_fit]

theorem isFieldText_plain (bits : 0 < f.fractionBits) (b : Binary f) :
    isFieldText b.plain = true := by
  match b with
  | .nan | .infinite false | .infinite true => rfl
  | .finite negative rank =>
    obtain ⟨m, written, -⟩ := exists_numeral_plain bits negative rank
    rw [← written]
    exact isFieldText_numeral m

end Binary

end Nmea
