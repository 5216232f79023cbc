import Mathlib.Control.Monad.Basic
import Nmea.Proofs.Field.Pair
import Nmea.Proofs.Number.Reading
import Nmea.Proofs.Record.Value

/-!
# Times of day

A time of day is read from a pair of characters each for the hour and the minute, and a number of
seconds in any notation that numbers have (`TimeOfDay.readAll_eq_some_iff`). The seconds are rounded
to milliseconds; among these, only the number of whole seconds modulo 256 is looked at.

What is written as a time ought to be is read as it is written, the milliseconds being as near to
the decimals as one half and the last bits of two numbers allow (`WrittenTime.get_eq_ok_iff`). With
the three decimals that a time is written with nothing is lost but what is finer than milliseconds
(`TimeOfDay.get_setValue_truncated`).
-/

namespace Nmea

variable {r : Record} {index : Nat} {t : Text} {time : TimeOfDay} {x : Rat}

namespace TimeOfDay

/-! ### Milliseconds -/

/-- A thousand times a number of seconds is rounded three times, to a number, as a product, and to
whole milliseconds. The first two roundings hardly matter beside the last. -/
theorem abs_milliseconds_sub_le (hx : 0 ≤ x) (h : x < 128) :
    |(milliseconds (.round false x) : Rat) - 1000 * x| ≤ 1 / 2 + 2 ^ (-36 : Int) := by
  -- seconds are below the seventh power of two, and milliseconds below the seventeenth
  obtain ⟨seconds, hs, near_seconds⟩ :=
    Binary.exists_double_eq_finite (k := 7) false hx (by norm_num; exact h) (by decide)
  have seconds_near := abs_le.mp near_seconds
  norm_num at seconds_near
  have ms_near := Binary.abs_toNatWithin_mul_sub_le mostMilliseconds (i := seconds) (n := 1000)
    (k := 17) (by decide) (by norm_num; linarith) (by decide) (by decide)
  rw [milliseconds, hs]
  rw [abs_le] at ms_near ⊢
  norm_num at ms_near ⊢
  constructor <;> linarith

/-! ### Reading -/

/-- The pairs of characters and the number that a time is read from. -/
structure IsSpelled (time : TimeOfDay) (hour minute seconds : Text) (x : Double) : Prop where
  hour : IsPair hour time.hour
  minute : IsPair minute time.minute
  seconds : Denotes seconds x
  isNegative : x.isNegative = false
  second : time.second = milliseconds x / 1000 % 256
  nanosecond : time.nanosecond = milliseconds x % 1000 * 1000000

theorem ofParts?_eq_some_iff {h m s n : Nat} : ofParts? h m s n = some time ↔
    time.hour = h ∧ time.minute = m ∧ time.second = s ∧ time.nanosecond = n := by
  rw [ofParts?]
  constructor
  · intro found
    split at found <;> cases found
    exact ⟨rfl, rfl, rfl, rfl⟩
  · rintro ⟨rfl, rfl, rfl, rfl⟩
    rw [dif_pos ⟨time.hour_lt, time.minute_lt, time.second_lt, time.nanosecond_lt⟩]

theorem read_append {hour minute seconds : Text} {h m : Nat} {x : Double} (hh : IsPair hour h)
    (hm : IsPair minute m) (hs : Denotes seconds x) (positive : x.isNegative = false) :
    read (hour ++ (minute ++ seconds)) =
      (ofParts? h m (milliseconds x / 1000 % 256) (milliseconds x % 1000 * 1000000)).map
        fun time => (time, []) := by
  simp [read, readPair_append hh, readPair_append hm, readBinary_eq_some_iff.mpr hs, positive,
    hh.toNat_ofNat, hm.toNat_ofNat, Option.map_eq_bind]

theorem readAll_eq_some_iff : FieldValue.readAll t = some time ↔
    ∃ hour minute seconds x, t = hour ++ (minute ++ seconds) ∧
      time.IsSpelled hour minute seconds x := by
  rw [FieldValue.readAll_eq_some_iff]
  show read t = some (time, []) ↔ _
  constructor
  · intro h
    simp only [read, bind, pure, Option.bind_eq_some_iff, Prod.exists] at h
    obtain ⟨n, rest, hh, m, rest, hm, x, rest, hs, h⟩ := h
    obtain ⟨hour, rfl, hour_pair⟩ := readPair_eq_some_iff.mp hh
    obtain ⟨minute, rfl, minute_pair⟩ := readPair_eq_some_iff.mp hm
    split at h
    · cases h
    · next positive =>
      simp only [Option.bind_eq_some_iff, Option.some.injEq, Prod.mk.injEq,
        ofParts?_eq_some_iff] at h
      obtain ⟨_, ⟨hour_eq, minute_eq, second_eq, nanosecond_eq⟩, rfl, rfl⟩ := h
      exact ⟨hour, minute, _, x, rfl, hour_eq ▸ hour_pair, minute_eq ▸ minute_pair,
        readBinary_eq_some_iff.mp hs, Bool.eq_false_of_not_eq_true positive, second_eq,
        nanosecond_eq⟩
  · rintro ⟨hour, minute, seconds, x, rfl, h⟩
    rw [read_append h.hour h.minute h.seconds h.isNegative, Option.map_eq_some_iff]
    exact ⟨time, ofParts?_eq_some_iff.mpr ⟨rfl, rfl, h.second, h.nanosecond⟩, rfl⟩

end TimeOfDay

/-! ### The form of a time -/

/-- A time of day as it ought to be written: two digits each for the hour, the minute and the
second, and perhaps decimals behind a point. -/
structure WrittenTime where
  hour : Text
  minute : Text
  second : Text
  decimals : Option Text
  all_isDigit_hour : hour.all Char.isDigit = true
  all_isDigit_minute : minute.all Char.isDigit = true
  all_isDigit_second : second.all Char.isDigit = true
  all_isDigit_decimals : (decimals.getD []).all Char.isDigit = true
  length_hour : hour.length = 2
  length_minute : minute.length = 2
  length_second : second.length = 2
  decimals_ne_nil : decimals ≠ some []

namespace WrittenTime

def text (w : WrittenTime) : Text :=
  w.hour ++ (w.minute ++ (w.second ++ w.decimals.elim [] ('.' :: ·)))

theorem drop_six_text (w : WrittenTime) : w.text.drop 6 = w.decimals.elim [] ('.' :: ·) := by
  have six : (w.hour ++ (w.minute ++ w.second)).length = 6 := by
    simp [w.length_hour, w.length_minute, w.length_second]
  rw [text, ← List.append_assoc w.minute, ← List.append_assoc, ← six, List.drop_left]

/-- The seconds with their decimals. -/
def seconds (w : WrittenTime) : Rat :=
  digitsValue (w.second ++ w.decimals.getD []) * (10 : Rat) ^ (-((w.decimals.getD []).length : Int))

/-- The milliseconds that the seconds are read as. -/
def milliseconds (w : WrittenTime) : Nat := TimeOfDay.milliseconds (.round false w.seconds)

variable (w : WrittenTime)

/-! ### Written seconds -/

theorem denotes_seconds : Denotes (w.second ++ w.decimals.elim [] ('.' :: ·))
    (.round false w.seconds : Double) := by
  have digits : (w.second ++ w.decimals.getD []).all Char.isDigit = true := by
    rw [List.all_append, w.all_isDigit_second, w.all_isDigit_decimals, Bool.and_true]
  have some_digit : w.second ++ w.decimals.getD [] ≠ [] :=
    List.append_ne_nil_of_left_ne_nil (List.ne_nil_of_length_eq_add_one w.length_second) _
  have numeral := Denotes.numeral (f := .binary64)
    ⟨none, w.second, w.decimals, none, digits, some_digit⟩
  simpa [Numeral.text, Numeral.isNegative, Numeral.magnitude, Numeral.digits, Numeral.exponent,
    signText, seconds] using numeral

theorem seconds_mem :
    digitsValue w.second ≤ w.seconds ∧ w.seconds < digitsValue w.second + 1 := by
  have decimals : (digitsValue (w.decimals.getD []) : Rat) < 10 ^ (w.decimals.getD []).length := by
    exact_mod_cast digitsValue_lt w.all_isDigit_decimals
  have unit_pos : (0 : Rat) < 10 ^ (w.decimals.getD []).length := by positivity
  rw [seconds, digitsValue_append, zpow_neg, zpow_natCast, ← div_eq_mul_inv, le_div_iff₀ unit_pos,
    div_lt_iff₀ unit_pos]
  push_cast
  constructor <;> nlinarith

theorem digitsValue_second_lt : digitsValue w.second < 100 := by
  have lt := digitsValue_lt w.all_isDigit_second
  rwa [w.length_second] at lt

theorem abs_milliseconds_sub_le :
    |(w.milliseconds : Rat) - 1000 * w.seconds| ≤ 1 / 2 + 2 ^ (-36 : Int) := by
  have whole : (digitsValue w.second : Rat) + 1 ≤ 100 := by exact_mod_cast w.digitsValue_second_lt
  have bounds := w.seconds_mem
  have nonneg : (0 : Rat) ≤ digitsValue w.second := Nat.cast_nonneg _
  exact TimeOfDay.abs_milliseconds_sub_le (by linarith) (by linarith)

/-- Up to three decimals nothing is lost. -/
theorem milliseconds_eq (h : (w.decimals.getD []).length ≤ 3) :
    (w.milliseconds : Rat) = 1000 * w.seconds := by
  have whole : 1000 * w.seconds = (digitsValue (w.second ++ w.decimals.getD []) *
      10 ^ (3 - (w.decimals.getD []).length) : Nat) := by
    push_cast
    rw [seconds, zpow_neg, zpow_natCast, pow_sub₀ _ (by norm_num) h]
    ring
  have near := abs_lt.mp (w.abs_milliseconds_sub_le.trans_lt (by norm_num : _ < (1 : Rat)))
  rw [whole] at near ⊢
  -- two whole numbers less than one apart are the same
  generalize digitsValue _ * _ = n at near ⊢
  have low : (n : Rat) < w.milliseconds + 1 := by linarith [near.1]
  have high : (w.milliseconds : Rat) < n + 1 := by linarith [near.2]
  have low : n < w.milliseconds + 1 := by exact_mod_cast low
  have high : w.milliseconds < n + 1 := by exact_mod_cast high
  exact_mod_cast (by omega : w.milliseconds = n)

theorem milliseconds_div_lt : w.milliseconds / 1000 < 256 := by
  have near := (abs_le.mp w.abs_milliseconds_sub_le).2
  have bounds := w.seconds_mem.2
  have whole : (digitsValue w.second : Rat) < 100 := by exact_mod_cast w.digitsValue_second_lt
  norm_num at near
  have lt : (w.milliseconds : Rat) < 256000 := by linarith
  have lt : w.milliseconds < 256000 := by exact_mod_cast lt
  omega

/-! ### Reading -/

theorem get_eq_ok_iff (hf : r.fields[index]? = some w.text) : r.get TimeOfDay index = .ok time ↔
    time.hour = digitsValue w.hour ∧ time.minute = digitsValue w.minute ∧
      time.second = w.milliseconds / 1000 ∧ time.nanosecond = w.milliseconds % 1000 * 1000000 := by
  have read := TimeOfDay.read_append (isPair_of_all_isDigit w.length_hour w.all_isDigit_hour)
    (isPair_of_all_isDigit w.length_minute w.all_isDigit_minute) w.denotes_seconds
    (Binary.isNegative_round false _)
  have some_text : w.text ≠ [] :=
    List.append_ne_nil_of_left_ne_nil (List.ne_nil_of_length_eq_add_one w.length_hour) _
  rw [Record.get_eq_ok_iff]
  simp only [hf, Option.some.injEq, exists_eq_left', FieldValue.readAll_eq_some_iff, some_text,
    ne_eq, not_false_eq_true, true_and]
  show TimeOfDay.read w.text = _ ↔ _
  rw [text, read, Option.map_eq_some_iff, ← milliseconds, Nat.mod_eq_of_lt w.milliseconds_div_lt]
  simp [TimeOfDay.ofParts?_eq_some_iff]

theorem exists_get_iff (hf : r.fields[index]? = some w.text) :
    (∃ time, r.get TimeOfDay index = .ok time) ↔
      digitsValue w.hour < 24 ∧ digitsValue w.minute < 60 ∧ w.milliseconds < 60000 := by
  simp only [w.get_eq_ok_iff hf]
  constructor
  · rintro ⟨time, hour, minute, second, -⟩
    have := time.hour_lt
    have := time.minute_lt
    have := time.second_lt
    omega
  · rintro ⟨hour, minute, second⟩
    exact ⟨⟨_, _, _, _, hour, minute, by omega, by omega⟩, rfl, rfl, rfl, rfl⟩

/-- Up to three decimals a time is turned away only for its two digits of seconds. -/
theorem milliseconds_lt_iff (h : (w.decimals.getD []).length ≤ 3) :
    w.milliseconds < 60000 ↔ digitsValue w.second < 60 := by
  have same := w.milliseconds_eq h
  have bounds := w.seconds_mem
  constructor
  · intro lt
    have lt : (w.milliseconds : Rat) < 60000 := by exact_mod_cast lt
    have lt : (digitsValue w.second : Rat) < 60 := by linarith
    exact_mod_cast lt
  · intro lt
    have le : (digitsValue w.second : Rat) + 1 ≤ 60 := by exact_mod_cast lt
    have lt : (w.milliseconds : Rat) < 60000 := by linarith
    exact_mod_cast lt

end WrittenTime

/-! ### What is read -/

/-- How a time that is written as it ought to be is read: if its hour and its minute are in range
and its seconds, rounded to milliseconds, do not come to sixty. The rounding moves the seconds by
half a millisecond, but for the last bits of two numbers, and up to three decimals not at all. -/
structure WrittenTime.IsReadAs (w : WrittenTime) (reading : Except Error TimeOfDay) : Prop where
  eq_ok_iff : ∀ time, reading = .ok time ↔
    time.hour = digitsValue w.hour ∧ time.minute = digitsValue w.minute ∧
      time.second = w.milliseconds / 1000 ∧ time.nanosecond = w.milliseconds % 1000 * 1000000
  exists_iff : (∃ time, reading = .ok time) ↔
    digitsValue w.hour < 24 ∧ digitsValue w.minute < 60 ∧ w.milliseconds < 60000
  abs_sub_le : |(w.milliseconds : Rat) - 1000 * w.seconds| ≤ 1 / 2 + 2 ^ (-36 : Int)
  eq_of_few : (w.decimals.getD []).length ≤ 3 → (w.milliseconds : Rat) = 1000 * w.seconds ∧
    (w.milliseconds < 60000 ↔ digitsValue w.second < 60)

/-- How the text of a field is read as a time: from pairs of characters and a number in whatever
notation, and with one error only. -/
structure IsReadAsTime (index : Nat) (t : Text) (reading : Except Error TimeOfDay) : Prop where
  eq_ok_iff : ∀ time, reading = .ok time ↔ ∃ hour minute seconds x,
    t = hour ++ (minute ++ seconds) ∧ time.IsSpelled hour minute seconds x
  eq_fieldParse : ∀ why, reading = .error why → why = .fieldParse index t "time".toList
  written : ∀ w : WrittenTime, w.text = t → w.IsReadAs reading

theorem WrittenTime.isReadAs_get (w : WrittenTime) (hf : r.fields[index]? = some w.text) :
    w.IsReadAs (r.get TimeOfDay index) where
  eq_ok_iff _ := w.get_eq_ok_iff hf
  exists_iff := w.exists_get_iff hf
  abs_sub_le := w.abs_milliseconds_sub_le
  eq_of_few few := ⟨w.milliseconds_eq few, w.milliseconds_lt_iff few⟩

/-- Every text of a field is read as a time in this way. -/
theorem Record.get_timeOfDay (hf : r.fields[index]? = some t) (hn : t ≠ []) :
    IsReadAsTime index t (r.get TimeOfDay index) where
  eq_ok_iff time := by
    rw [get_eq_ok_iff]
    simp only [hf, Option.some.injEq, exists_eq_left', TimeOfDay.readAll_eq_some_iff]
    exact and_iff_right hn
  eq_fieldParse _ := eq_fieldParse_of_get hf hn
  written := by
    rintro w rfl
    exact w.isReadAs_get hf

/-- Seconds from 256 on are read as if the count had begun anew. -/
theorem Record.get_timeOfDay_wrapped :
    let r : Record := ⟨.standard, .named .GP, "ZDA".toList, ["0000256".toList]⟩
    r.fields[0]? = some "0000256".toList ∧ "0000256".toList ≠ [] ∧
      IsReadAsTime 0 "0000256".toList (r.get TimeOfDay 0) := by
  intro r
  have nonempty : "0000256".toList ≠ [] := by decide
  exact ⟨rfl, nonempty, Record.get_timeOfDay rfl nonempty⟩

/-- A text of another form than that of a time is read as one. -/
theorem Record.not_strict_get_timeOfDay : ¬ ∀ (r : Record) (index : Nat) (t : Text),
    r.fields[index]? = some t → t.all isPrintable = true →
      ((∃ time, r.get TimeOfDay index = .ok time) ↔ ∃ w : WrittenTime, w.text = t ∧
        digitsValue w.hour < 24 ∧ digitsValue w.minute < 60 ∧ digitsValue w.second < 60) := by
  intro strict
  let r : Record := ⟨.standard, .named .GP, "ZDA".toList, ["0000256".toList]⟩
  have midnight : r.get TimeOfDay 0 =
      .ok ⟨0, 0, 0, 0, by decide, by decide, by decide, by decide⟩ := by
    decide +kernel
  obtain ⟨w, e, -⟩ := (strict r 0 "0000256".toList rfl (by decide)).mp ⟨_, midnight⟩
  have behind := w.drop_six_text
  rw [e] at behind
  cases h : w.decimals with
  | none =>
    rw [h] at behind
    cases behind
  | some digits =>
    rw [h] at behind
    cases behind

/-! ### Reading what was written -/

/-- The form in which a time is written. -/
def WrittenTime.ofTime (time : TimeOfDay) : WrittenTime where
  hour := padded 2 time.hour
  minute := padded 2 time.minute
  second := padded 2 time.second
  decimals := some (padded 3 time.millisecond)
  all_isDigit_hour := all_isDigit_padded 2 _
  all_isDigit_minute := all_isDigit_padded 2 _
  all_isDigit_second := all_isDigit_padded 2 _
  all_isDigit_decimals := all_isDigit_padded 3 _
  length_hour := length_padded (by decide) (by have := time.hour_lt; omega)
  length_minute := length_padded (by decide) (by have := time.minute_lt; omega)
  length_second := length_padded (by decide) (by have := time.second_lt; omega)
  decimals_ne_nil := fun e => padded_ne_nil 3 _ (Option.some.inj e)

namespace TimeOfDay

variable (time : TimeOfDay)

theorem millisecond_lt : time.millisecond < 1000 :=
  Nat.div_lt_of_lt_mul time.nanosecond_lt

theorem text_ofTime : (WrittenTime.ofTime time).text = time.write := by
  simp [WrittenTime.text, WrittenTime.ofTime, write]

theorem length_decimals_ofTime : (padded 3 time.millisecond).length = 3 :=
  length_padded (by decide) time.millisecond_lt

theorem seconds_ofTime :
    1000 * (WrittenTime.ofTime time).seconds = (1000 * time.second + time.millisecond : Nat) := by
  simp only [WrittenTime.seconds, WrittenTime.ofTime, Option.getD_some, digitsValue_append,
    digitsValue_padded, length_decimals_ofTime]
  push_cast
  norm_num
  ring

theorem milliseconds_ofTime :
    (WrittenTime.ofTime time).milliseconds = 1000 * time.second + time.millisecond := by
  have exact := (WrittenTime.ofTime time).milliseconds_eq (time.length_decimals_ofTime.le)
  rw [seconds_ofTime] at exact
  exact_mod_cast exact

/-- A time without what is finer than milliseconds. -/
def truncated : TimeOfDay where
  hour := time.hour
  minute := time.minute
  second := time.second
  nanosecond := time.millisecond * 1000000
  hour_lt := time.hour_lt
  minute_lt := time.minute_lt
  second_lt := time.second_lt
  nanosecond_lt := by
    have := time.millisecond_lt
    omega

/-- What is finer than milliseconds is not written. -/
theorem write_truncated : time.truncated.write = time.write := by
  have same : time.truncated.millisecond = time.millisecond :=
    Nat.mul_div_cancel _ (by decide)
  simp only [write, same]
  rfl

theorem isFieldText_write : isFieldText time.write = true := by
  simp [write, isFieldText_of_all_isDigit, all_isDigit_padded, isFieldChar, isPrintable]

theorem get_of_write (h : r.fields[index]? = some time.write) :
    r.get TimeOfDay index = .ok time.truncated := by
  rw [← text_ofTime] at h
  have lt := time.millisecond_lt
  refine ((WrittenTime.ofTime time).get_eq_ok_iff h).mpr ⟨?_, ?_, ?_, ?_⟩
  · exact (digitsValue_padded 2 _).symm
  · exact (digitsValue_padded 2 _).symm
  · rw [milliseconds_ofTime]
    show time.second = _
    omega
  · rw [milliseconds_ofTime]
    show time.millisecond * 1000000 = _
    omega

/-- The parts of a written time are those of a time of day, with three decimals for the
milliseconds. -/
structure IsShownBy (w : WrittenTime) : Prop where
  hour_eq : digitsValue w.hour = time.hour
  minute_eq : digitsValue w.minute = time.minute
  second_eq : digitsValue w.second = time.second
  decimals_eq : ∃ digits, w.decimals = some digits ∧ digits.length = 3 ∧
    digitsValue digits = time.millisecond

theorem isShownBy_ofTime : time.IsShownBy (.ofTime time) where
  hour_eq := digitsValue_padded 2 _
  minute_eq := digitsValue_padded 2 _
  second_eq := digitsValue_padded 2 _
  decimals_eq := ⟨_, rfl, time.length_decimals_ofTime, digitsValue_padded 3 _⟩

/-- Every time is written to the millisecond and read again as it was written. To write what was
read changes nothing. -/
theorem get_setValue_truncated (hi : index < r.count) : ∃ s w,
    (Edit.setValue index time).apply r = (.ok (), s) ∧
      s.fields[index]? = some (WrittenTime.text w) ∧ time.IsShownBy w ∧
      s.get TimeOfDay index = .ok time.truncated ∧
      (Edit.setValue index time.truncated).apply s = (.ok (), s) := by
  obtain ⟨s, applied⟩ := (Edit.exists_apply_setField_iff hi).mpr time.isFieldText_write
  have field := Edit.getElem?_of_apply_setField applied
  refine ⟨s, .ofTime time, applied, ?_, time.isShownBy_ofTime, time.get_of_write field, ?_⟩
  · rw [text_ofTime]
    exact field
  · rw [← write_truncated] at field
    exact Edit.apply_setField_self time.truncated.isFieldText_write field

/-- In the last nanosecond of a day the second is not rounded up. -/
theorem get_setValue_truncated_midnight :
    let r := Record.blank .standard (.named .GP) "ZDA".toList 1
    let time : TimeOfDay := ⟨23, 59, 59, 999999999, by decide, by decide, by decide, by decide⟩
    0 < r.count ∧ ∃ s w,
      (Edit.setValue 0 time).apply r = (.ok (), s) ∧
        s.fields[0]? = some (WrittenTime.text w) ∧ time.IsShownBy w ∧
        s.get TimeOfDay 0 = .ok time.truncated ∧
        (Edit.setValue 0 time.truncated).apply s = (.ok (), s) := by
  intro r time
  have there : 0 < r.count := by decide
  exact ⟨there, time.get_setValue_truncated there⟩

end TimeOfDay

end Nmea
