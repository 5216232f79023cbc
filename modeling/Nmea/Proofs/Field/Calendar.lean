import Mathlib.Control.Monad.Basic
import Nmea.Proofs.Field.Pair
import Nmea.Proofs.Record.Value

/-!
# Calendar dates

A date is read from a pair of characters each for the day, the month and the year
(`Record.get_date_eq_ok_iff`) and written as six digits. What is read from six digits is therefore
written as it stood there, and what is read from anything else is not
(`Date.apply_setValue_of_get`).

A date that was written is read in the century from 1983 to 2082, with the same last two digits of
its year (`Date.get_setValue_inWindow`). A leap day is one there too, because the only year of the
window that ends in two zeros is a leap year.
-/

namespace Nmea

variable {r : Record} {index : Nat} {d : Date} {day month year t : Text}

namespace Date

/-- The pairs of characters that a date is read from. -/
structure IsSpelled (d : Date) (day month year : Text) : Prop where
  day : IsPair day d.day
  month : IsPair month d.month
  year : ∃ pair, IsPair year pair ∧ d.year = yearOfPair pair

/-! ### Reading -/

theorem ofParts?_eq_some_iff {y : Int} {m n : Nat} :
    ofParts? y m n = some d ↔ d.year = y ∧ d.month = m ∧ d.day = n := by
  rw [ofParts?]
  constructor
  · intro h
    split at h <;> cases h
    exact ⟨rfl, rfl, rfl⟩
  · rintro ⟨rfl, rfl, rfl⟩
    rw [dif_pos ⟨d.year_ge, d.year_le, d.day_pos, d.day_le⟩]

theorem readAll_eq_some_iff : FieldValue.readAll t = some d ↔
    ∃ day month year, t = day ++ month ++ year ∧ d.IsSpelled day month year := by
  rw [FieldValue.readAll_eq_some_iff]
  show read t = some (d, []) ↔ _
  simp only [read, bind, pure, Option.bind_eq_some_iff, Prod.exists, Option.some.injEq,
    Prod.mk.injEq, ofParts?_eq_some_iff]
  constructor
  · rintro ⟨n, t, hd, m, t, hm, y, t, hy, _, ⟨hyear, hmonth, hday⟩, rfl, rfl⟩
    obtain ⟨day, rfl, day_pair⟩ := TimeOfDay.readPair_eq_some_iff.mp hd
    obtain ⟨month, rfl, month_pair⟩ := TimeOfDay.readPair_eq_some_iff.mp hm
    obtain ⟨year, rfl, year_pair⟩ := TimeOfDay.readPair_eq_some_iff.mp hy
    exact ⟨day, month, year, by simp, hday ▸ day_pair, hmonth ▸ month_pair, _, year_pair, hyear⟩
  · rintro ⟨day, month, year, rfl, hd, hm, pair, hy, hyear⟩
    have first := TimeOfDay.readPair_append hd (month ++ year)
    have second := TimeOfDay.readPair_append hm year
    have third := TimeOfDay.readPair_append hy []
    rw [← List.append_assoc] at first
    rw [List.append_nil] at third
    refine ⟨_, _, first, _, _, second, _, _, third, d, ⟨?_, ?_, ?_⟩, rfl, rfl⟩
    · rw [hy.toNat_ofNat, hyear]
    · rw [hm.toNat_ofNat]
    · rw [hd.toNat_ofNat]

theorem IsSpelled.length_eq (h : d.IsSpelled day month year) :
    (day ++ month ++ year).length = 6 := by
  obtain ⟨pair, hy, -⟩ := h.year
  simp [h.day.length_eq, h.month.length_eq, hy.length_eq]

end Date

/-- A date is read from exactly three pairs of characters. -/
theorem Record.get_date_eq_ok_iff : r.get Date index = .ok d ↔
    ∃ day month year, r.fields[index]? = some (day ++ month ++ year) ∧
      d.IsSpelled day month year := by
  simp only [get_eq_ok_iff, Date.readAll_eq_some_iff]
  constructor
  · rintro ⟨_, hf, -, day, month, year, rfl, h⟩
    exact ⟨day, month, year, hf, h⟩
  · rintro ⟨day, month, year, hf, h⟩
    refine ⟨_, hf, ?_, day, month, year, rfl, h⟩
    exact List.ne_nil_of_length_eq_add_one h.length_eq

namespace Date

/-! ### Writing -/

theorem IsSpelled.year_mod (h : d.IsSpelled day month year) :
    IsPair year (d.year % 100).toNat := by
  obtain ⟨pair, hp, e⟩ := h.year
  have := hp.lt
  -- the century that a pair is put into does not touch its two digits
  have same : (d.year % 100).toNat = pair := by
    rw [e, yearOfPair]
    split <;> omega
  rwa [same]

theorem IsSpelled.all_isDigit_write (h : d.IsSpelled day month year) :
    d.write.all Char.isDigit = true := by
  simp only [write, List.all_append, h.day.padded_two.2, h.month.padded_two.2,
    h.year_mod.padded_two.2, Bool.and_true]

/-- A date is written as the text it was read from exactly if this is made of digits. -/
theorem IsSpelled.write_eq_iff (h : d.IsSpelled day month year) :
    d.write = day ++ month ++ year ↔ (day ++ month ++ year).all Char.isDigit = true := by
  constructor
  · intro e
    rw [← e]
    exact h.all_isDigit_write
  · intro digits
    simp only [List.all_append, Bool.and_eq_true] at digits
    obtain ⟨⟨hd, hm⟩, hy⟩ := digits
    rw [write, h.day.padded_eq_iff.mpr hd, h.month.padded_eq_iff.mpr hm,
      h.year_mod.padded_eq_iff.mpr hy]

/-- A date that was read from a field is written back as six digits. These are the text that it was
read from exactly if nothing in this text was passed over. -/
theorem apply_setValue_of_get (h : r.get Date index = .ok d) :
    ∃ day month year, r.fields[index]? = some (day ++ month ++ year) ∧
      d.IsSpelled day month year ∧
      (Edit.setValue index d).apply r = (.ok (), { r with fields := r.fields.set index d.write }) ∧
      d.write.length = 6 ∧ d.write.all Char.isDigit = true ∧
      (d.write = day ++ month ++ year ↔ (day ++ month ++ year).all Char.isDigit = true) := by
  obtain ⟨day, month, year, hf, spelled⟩ := Record.get_date_eq_ok_iff.mp h
  have digits := spelled.all_isDigit_write
  have count : d.write.length = 6 := by
    simp [write, spelled.day.padded_two.1, spelled.month.padded_two.1,
      spelled.year_mod.padded_two.1]
  exact ⟨day, month, year, hf, spelled,
    Edit.apply_setValue hf (isFieldText_of_all_isDigit digits), count, digits,
    spelled.write_eq_iff⟩

/-- The letter in place of a digit is lost. -/
theorem apply_setValue_of_get_letter :
    let r : Record := ⟨.standard, .named .GP, "ZDA".toList, ["1x0203".toList]⟩
    let d : Date := ⟨2003, 2, 1, by decide, by decide, by decide, by decide⟩
    r.get Date 0 = .ok d ∧
      ∃ day month year, r.fields[0]? = some (day ++ month ++ year) ∧
        d.IsSpelled day month year ∧
        (Edit.setValue 0 d).apply r = (.ok (), { r with fields := r.fields.set 0 d.write }) ∧
        d.write.length = 6 ∧ d.write.all Char.isDigit = true ∧
        (d.write = day ++ month ++ year ↔ (day ++ month ++ year).all Char.isDigit = true) := by
  intro r d
  have read : r.get Date 0 = .ok d := by decide +kernel
  exact ⟨read, apply_setValue_of_get read⟩

/-- Dates are read from more than six digits, so that not every date is written as it was read. -/
theorem not_canonical_get : ¬ ∀ (r : Record) (index : Nat) (d : Date), r.get Date index = .ok d →
    ∃ text, r.fields[index]? = some text ∧ text.length = 6 ∧ text.all Char.isDigit = true ∧
      (Edit.setValue index d).apply r = (.ok (), r) := by
  intro canonical
  let r : Record := ⟨.standard, .named .GP, "ZDA".toList, ["1x0203".toList]⟩
  have read : r.get Date 0 = .ok ⟨2003, 2, 1, by decide, by decide, by decide, by decide⟩ := by
    decide +kernel
  obtain ⟨text, hf, -, digits, -⟩ := canonical r 0 _ read
  cases hf
  exact absurd digits (by decide)

/-! ### The window of a century -/

/-- The year from 1983 to 2082 that ends in the same two digits. -/
def yearInWindow (year : Int) : Int := yearOfPair (year % 100).toNat

theorem yearInWindow_eq (year : Int) : yearInWindow year =
    if 83 ≤ year % 100 then 1900 + year % 100 else 2000 + year % 100 := by
  have pair : ((year % 100).toNat : Int) = year % 100 := Int.toNat_of_nonneg (by omega)
  simp only [yearInWindow, yearOfPair, pair, Bool.and_eq_true, decide_eq_true_eq]
  split <;> split <;> omega

theorem yearInWindow_mod (year : Int) : yearInWindow year % 100 = year % 100 := by
  rw [yearInWindow_eq]
  split <;> omega

/-- A year of the window is determined by its last two digits. -/
theorem eq_yearInWindow_iff {year window : Int} : window = yearInWindow year ↔
    1983 ≤ window ∧ window ≤ 2082 ∧ window % 100 = year % 100 := by
  rw [yearInWindow_eq]
  split <;> omega

example : yearInWindow (-4) = 1996 ∧ yearInWindow 1982 = 2082 ∧ yearInWindow 2083 = 1983 := by
  decide

theorem isLeapYear_yearInWindow {year : Int} (h : isLeapYear year = true) :
    isLeapYear (yearInWindow year) = true := by
  simp only [isLeapYear, Bool.and_eq_true, Bool.or_eq_true, decide_eq_true_eq] at h ⊢
  rw [yearInWindow_eq]
  split <;> omega

/-- No month of a leap year is shorter than in another year. -/
theorem daysIn_le_daysIn {year other : Int}
    (leap : isLeapYear year = true → isLeapYear other = true) (month : Nat) :
    daysIn year month ≤ daysIn other month := by
  match month with
  | 2 =>
    simp only [daysIn]
    split
    · next h => rw [if_pos (leap h)]
    · split <;> decide
  | 0 | 1 | 3 | 4 | 5 | 6 | 7 | 8 | 9 | 10 | 11 | 12 | _ + 13 => exact Nat.le_refl _

theorem daysIn_lt (year : Int) (month : Nat) : daysIn year month < 100 := by
  match month with
  | 2 =>
    simp only [daysIn]
    split <;> decide
  | 0 | 1 | 3 | 4 | 5 | 6 | 7 | 8 | 9 | 10 | 11 | 12 | _ + 13 => simp [daysIn]

theorem lt_of_daysIn_pos {year : Int} {month : Nat} (h : 0 < daysIn year month) :
    month < 100 := by
  match month with
  | 0 | 1 | 2 | 3 | 4 | 5 | 6 | 7 | 8 | 9 | 10 | 11 | 12 => decide
  | _ + 13 => cases h

/-- The date in the window that is written as this one is. -/
def inWindow (d : Date) : Date where
  year := yearInWindow d.year
  month := d.month
  day := d.day
  year_ge := by
    have := eq_yearInWindow_iff.mp (rfl : yearInWindow d.year = _)
    omega
  year_le := by
    have := eq_yearInWindow_iff.mp (rfl : yearInWindow d.year = _)
    omega
  day_pos := d.day_pos
  day_le := d.day_le.trans (daysIn_le_daysIn isLeapYear_yearInWindow d.month)

theorem write_inWindow (d : Date) : d.inWindow.write = d.write := by
  simp only [write, inWindow, yearInWindow_mod]

/-- A date is written as the date in the window is spelled. -/
theorem isSpelled_inWindow (d : Date) : d.inWindow.IsSpelled (padded 2 d.day) (padded 2 d.month)
    (padded 2 (d.year % 100).toNat) where
  day := isPair_padded (d.day_le.trans_lt (daysIn_lt d.year d.month))
  month := isPair_padded (lt_of_daysIn_pos (d.day_pos.trans_le d.day_le))
  year := ⟨_, isPair_padded (by omega), rfl⟩

/-- A date has the day and the month of another one, and the only year of the window that ends in
the same two digits. Therefore it is the other one exactly if that lies in the window. -/
structure IsWindowed (e d : Date) : Prop where
  day_eq : e.day = d.day
  month_eq : e.month = d.month
  year_eq_iff : ∀ year, year = e.year ↔ 1983 ≤ year ∧ year ≤ 2082 ∧ year % 100 = d.year % 100
  eq_iff : e = d ↔ 1983 ≤ d.year ∧ d.year ≤ 2082

theorem isWindowed_inWindow (d : Date) : d.inWindow.IsWindowed d where
  day_eq := rfl
  month_eq := rfl
  year_eq_iff _ := eq_yearInWindow_iff
  eq_iff := by
    constructor
    · intro same
      have year : d.year = yearInWindow d.year := congrArg Date.year same.symm
      obtain ⟨ge, le, -⟩ := eq_yearInWindow_iff.mp year
      exact ⟨ge, le⟩
    · rintro ⟨ge, le⟩
      have year : d.year = yearInWindow d.year := eq_yearInWindow_iff.mpr ⟨ge, le, rfl⟩
      cases d
      simp only [inWindow, ← year]

/-- Every date is written as six digits and read again, in the window. -/
theorem get_setValue_inWindow (d : Date) (hi : index < r.count) : ∃ s text e,
    (Edit.setValue index d).apply r = (.ok (), s) ∧
      s.fields[index]? = some text ∧ text.length = 6 ∧ text.all Char.isDigit = true ∧
      s.get Date index = .ok e ∧ e.IsWindowed d := by
  have spelled := d.isSpelled_inWindow
  have digits := spelled.all_isDigit_write
  rw [write_inWindow] at digits
  obtain ⟨s, applied⟩ :=
    (Edit.exists_apply_setField_iff hi).mpr (isFieldText_of_all_isDigit digits)
  have field := Edit.getElem?_of_apply_setField applied
  exact ⟨s, d.write, d.inWindow, applied, field, spelled.length_eq, digits,
    Record.get_date_eq_ok_iff.mpr ⟨_, _, _, field, spelled⟩, d.isWindowed_inWindow⟩

/-- The leap day of a negative year is read as one. -/
theorem get_setValue_inWindow_leap :
    let r := Record.blank .standard (.named .GP) "ZDA".toList 2
    let d : Date := ⟨-4, 2, 29, by decide, by decide, by decide, by decide⟩
    1 < r.count ∧ ∃ s text e, (Edit.setValue 1 d).apply r = (.ok (), s) ∧
      s.fields[1]? = some text ∧ text.length = 6 ∧ text.all Char.isDigit = true ∧
      s.get Date 1 = .ok e ∧ e.IsWindowed d := by
  intro r d
  have there : 1 < r.count := by decide
  exact ⟨there, get_setValue_inWindow d there⟩

end Date

end Nmea
