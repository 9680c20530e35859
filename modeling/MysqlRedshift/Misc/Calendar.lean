import Mathlib.Algebra.Group.Int.Defs
import Mathlib.Algebra.Group.Basic

/-!
# Days and dates

The Gregorian calendar in both directions: the date of a day, counted from the first
of January 1970, and the day of a date. Years begin in March here, so that the leap
day is the last one of its year, and 400 of them are an era.
-/

namespace MysqlRedshift.Misc

/-- The date of a day, counted from the first of January 1970. -/
def civil (day : Int) : Int × Nat × Nat :=
  -- years begin in March here, so that the leap day is the last one of its year
  let z := day + 719468
  let era := z / 146097
  let doe := z % 146097
  let yoe := (doe - doe / 1460 + doe / 36524 - doe / 146096) / 365
  let doy := doe - (365 * yoe + yoe / 4 - yoe / 100)
  let mp := (5 * doy + 2) / 153
  let month := if mp < 10 then mp + 3 else mp - 9
  let year := yoe + era * 400 + if month ≤ 2 then 1 else 0
  (year, month.toNat, (doy - (153 * mp + 2) / 5 + 1).toNat)

/-- The day of a date. A month or a day outside its range counts on into the next
month or year, or back into the one before. -/
def dayOf (year : Int) (month day : Nat) : Int :=
  let y := if month ≤ 2 then year - 1 else year
  let mp : Int := if month ≤ 2 then month + 9 else month - 3
  let yoe := y % 400
  y / 400 * 146097 + (365 * yoe + yoe / 4 - yoe / 100) + ((153 * mp + 2) / 5 + day - 1) - 719468

example : civil (dayOf 2024 2 30) = (2024, 3, 1) := by decide

section Era

variable {doe yoe doy mp : Int}

theorem yearOfEra_lt (first : 0 ≤ doe) (last : doe < 146097)
    (year : yoe = (doe - doe / 1460 + doe / 36524 - doe / 146096) / 365) :
    0 ≤ yoe ∧ yoe < 400 := by
  omega

/-- The days of an era are numbered anew in each of its years. -/
theorem dayOfYear_lt (first : 0 ≤ doe) (last : doe < 146097)
    (year : yoe = (doe - doe / 1460 + doe / 36524 - doe / 146096) / 365)
    (day : doy = doe - (365 * yoe + yoe / 4 - yoe / 100)) : 0 ≤ doy ∧ doy < 366 := by
  -- within a century the leap days are regular
  have century : doe / 36524 = 0 ∨ doe / 36524 = 1 ∨ doe / 36524 = 2 ∨ doe / 36524 = 3 ∨
      doe / 36524 = 4 := by
    omega
  have century' : yoe / 100 = 0 ∨ yoe / 100 = 1 ∨ yoe / 100 = 2 ∨ yoe / 100 = 3 := by
    omega
  have lastDay : doe / 146096 = 0 ∨ doe = 146096 := by omega
  rcases lastDay with before | rfl
  · rcases century with c | c | c | c | c
    all_goals
      rw [c, before] at year
      rcases century' with c' | c' | c' | c'
      all_goals
        rw [c'] at day
        omega
  · omega

theorem monthOfYear_lt (first : 0 ≤ doy) (last : doy < 366) (month : mp = (5 * doy + 2) / 153) :
    0 ≤ mp ∧ mp < 12 ∧ 0 ≤ doy - (153 * mp + 2) / 5 := by
  omega

end Era

/-- A day by its era, the year in it, the month from March on and the day before it in
the month, and the date that comes of them. -/
theorem civil_eq (day : Int) : ∃ (era yoe mp : Int) (d : Nat),
    (0 ≤ yoe ∧ yoe < 400) ∧ (0 ≤ mp ∧ mp < 12) ∧
      day = era * 146097 + (365 * yoe + yoe / 4 - yoe / 100) + ((153 * mp + 2) / 5 + d) - 719468 ∧
      civil day = if mp < 10 then (yoe + era * 400, (mp + 3).toNat, d + 1)
        else (yoe + era * 400 + 1, (mp - 9).toNat, d + 1) := by
  generalize era_is : (day + 719468) / 146097 = era
  generalize doe_is : (day + 719468) % 146097 = doe
  generalize yoe_is : (doe - doe / 1460 + doe / 36524 - doe / 146096) / 365 = yoe
  generalize doy_is : doe - (365 * yoe + yoe / 4 - yoe / 100) = doy
  generalize mp_is : (5 * doy + 2) / 153 = mp
  have inEra : 0 ≤ doe ∧ doe < 146097 := by omega
  have inYear := dayOfYear_lt inEra.1 inEra.2 yoe_is.symm doy_is.symm
  obtain ⟨month_pos, month_lt, inMonth⟩ := monthOfYear_lt inYear.1 inYear.2 mp_is.symm
  refine ⟨era, yoe, mp, (doy - (153 * mp + 2) / 5).toNat,
    yearOfEra_lt inEra.1 inEra.2 yoe_is.symm, ⟨month_pos, month_lt⟩, by omega, ?_⟩
  have next : (doy - (153 * mp + 2) / 5 + 1).toNat = (doy - (153 * mp + 2) / 5).toNat + 1 := by
    omega
  simp only [civil, era_is, doe_is, yoe_is, doy_is, mp_is, next]
  by_cases spring : mp < 10
  · have late : ¬ mp + 3 ≤ 2 := by omega
    simp only [if_pos spring, if_neg late, add_zero]
  · have early : mp - 9 ≤ 2 := by omega
    simp only [if_neg spring, if_pos early]

/-- The date of a day is of this day. -/
theorem dayOf_civil (day : Int) :
    dayOf (civil day).1 (civil day).2.1 (civil day).2.2 = day := by
  obtain ⟨era, yoe, mp, d, inEra, inYear, day_is, date⟩ := civil_eq day
  have era_of : (yoe + era * 400) / 400 = era := by omega
  have year_of : (yoe + era * 400) % 400 = yoe := by omega
  rw [date]
  by_cases spring : mp < 10
  · have late : ¬ (mp + 3).toNat ≤ 2 := by omega
    have month_of : ((mp + 3).toNat : Int) - 3 = mp := by omega
    simp only [if_pos spring, dayOf, if_neg late, month_of, era_of, year_of]
    omega
  · have early : (mp - 9).toNat ≤ 2 := by omega
    have month_of : ((mp - 9).toNat : Int) + 9 = mp := by omega
    simp only [if_neg spring, dayOf, if_pos early, month_of, add_sub_cancel_right, era_of, year_of]
    omega

/-- Months and days count from one. -/
theorem civil_pos (day : Int) : 0 < (civil day).2.1 ∧ 0 < (civil day).2.2 := by
  obtain ⟨era, yoe, mp, d, inEra, inYear, day_is, date⟩ := civil_eq day
  rw [date]
  split
  · have month : 0 < (mp + 3).toNat := by omega
    exact ⟨month, Nat.succ_pos d⟩
  · have month : 0 < (mp - 9).toNat := by omega
    exact ⟨month, Nat.succ_pos d⟩

end MysqlRedshift.Misc
