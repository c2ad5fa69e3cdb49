import Mathlib.Tactic.IntervalCases
import WarehouseAdmin.Time.Calendar

/-!
# Days counted by the calendar

The number of a day is computed by divisions, in years that begin in March. Here days are counted as
one counts them: the days of the years before, the days of the months before, and the days of the
month, with the lengths of the months as they are. `dayNumber_eq_daysSinceEpoch` says that both come
to the same. The link are the days before a year (`daysOfYears_eq`), by induction on the year; the
rest is one sum for each of the twelve months.
-/

set_option autoImplicit false

namespace WarehouseAdmin.Time

/-- The days of the first `m` months of a year. -/
def daysOfMonths (year : Int) : (m : Nat) → Nat
  | 0 => 0
  | m + 1 => daysOfMonths year m + daysInMonth year (m + 1)

/-- The days of the years from 0 on, without `year`. -/
def daysOfYears : (year : Nat) → Nat
  | 0 => 0
  | year + 1 => daysOfYears year + daysOfMonths year 12

namespace Date

/-- The number of days from 1 January of year 0 to a date that is not before it. -/
def daysCounted (d : Date) : Nat :=
  daysOfYears d.year.toNat + daysOfMonths d.year (d.month - 1) + (d.day - 1)

/-- The number of days from 1 January 1970 to a date of year 0 or later. -/
def daysSinceEpoch (d : Date) : Int := d.daysCounted - (Date.mk 1970 1 1).daysCounted

end Date

theorem isLeapYear_iff {year : Int} :
    isLeapYear year = true ↔ year % 4 = 0 ∧ (year % 100 ≠ 0 ∨ year % 400 = 0) := by
  simp [isLeapYear]

theorem daysOfMonths_twelve (year : Int) :
    daysOfMonths year 12 = if isLeapYear year then 366 else 365 := by
  cases h : isLeapYear year <;> simp [daysOfMonths, daysInMonth, h]

/-- In a leap year, the divisions count one day more. -/
theorem daysBeforeYear_succ (year : Int) :
    daysBeforeYear year = daysBeforeYear (year - 1) + daysOfMonths year 12 := by
  rw [daysOfMonths_twelve]
  unfold daysBeforeYear
  by_cases h : isLeapYear year = true
  · rw [if_pos h]
    rw [isLeapYear_iff] at h
    omega
  · rw [if_neg h]
    rw [isLeapYear_iff] at h
    omega

/-- The year 0 is a leap year. -/
theorem daysOfYears_eq (year : Nat) :
    (daysOfYears year : Int) = daysBeforeYear (year - 1) + 366 := by
  induction year with
  | zero => rfl
  | succ year ih =>
    have hyear : ((year + 1 : Nat) : Int) - 1 = year := by omega
    rw [daysOfYears, hyear, daysBeforeYear_succ]
    omega

theorem Date.daysCounted_newYear {year : Int} (h : 0 ≤ year) :
    ((Date.mk year 1 1).daysCounted : Int) = daysBeforeYear (year - 1) + 366 := by
  have hyears := daysOfYears_eq year.toNat
  rw [Int.toNat_of_nonneg h] at hyears
  rw [← hyears]
  rfl

/-! ## Months of the year that begins in March -/

/-- From March on, the beginnings of the months are where the division puts them. -/
theorem daysOfMonths_from_march (year : Int) {month : Nat} (hlow : 3 ≤ month) (hhigh : month ≤ 13) :
    daysOfMonths year (month - 1) = daysOfMonths year 2 + daysBeforeMonth (month - 3) := by
  interval_cases month <;> rfl

/-- January and February are behind the ten other months. -/
theorem daysOfMonths_before_march (year : Int) {month : Nat} (hlow : 1 ≤ month)
    (hhigh : month ≤ 2) : daysBeforeMonth (month + 9) = 306 + daysOfMonths year (month - 1) := by
  interval_cases month <;> rfl

theorem Date.month_pos_of_isValid {d : Date} (h : d.isValid = true) : 1 ≤ d.month := by
  simp only [Date.isValid, Bool.and_eq_true, decide_eq_true_eq] at h
  obtain ⟨⟨-, hlow⟩, hhigh⟩ := h
  rcases Nat.eq_zero_or_pos d.month with hzero | hpos
  · simp [hzero, daysInMonth] at hhigh
    omega
  · exact hpos

theorem Date.dayNumber_eq_daysCounted {d : Date} (hd : d.isValid = true) (hyear : 0 ≤ d.year)
    (hmonth : d.month ≤ 12) : d.dayNumber = d.daysCounted - 719528 := by
  have hfirst := Date.month_pos_of_isValid hd
  obtain ⟨year, month, day⟩ := d
  simp only [Date.isValid, Bool.and_eq_true, decide_eq_true_eq] at hd
  obtain ⟨⟨-, hday⟩, -⟩ := hd
  simp only at hyear hmonth hfirst hday
  have hyears := daysOfYears_eq year.toNat
  rw [Int.toNat_of_nonneg hyear] at hyears
  simp only [Date.dayNumber, Date.daysCounted]
  by_cases hearly : month ≤ 2
  · have hshift : (month + 9) % 12 = month + 9 := by omega
    rw [if_pos hearly, hshift, daysOfMonths_before_march year hfirst hearly]
    omega
  · have hshift : (month + 9) % 12 = month - 3 := by omega
    have hlate : 3 ≤ month := by omega
    have hsucc := daysBeforeYear_succ year
    have htwelve : daysOfMonths year 12 = daysOfMonths year 2 + 306 :=
      daysOfMonths_from_march year (by decide : 3 ≤ 13) (by decide)
    rw [if_neg hearly, hshift, daysOfMonths_from_march year hlate (by omega)]
    omega

/-- **The divisions count the days of the calendar.** -/
theorem Date.dayNumber_eq_daysSinceEpoch {d : Date} (hd : d.isValid = true) (hyear : 0 ≤ d.year)
    (hmonth : d.month ≤ 12) : d.dayNumber = d.daysSinceEpoch := by
  have hepoch : ((Date.mk 1970 1 1).daysCounted : Int) = 719528 :=
    Date.daysCounted_newYear (by decide)
  rw [Date.dayNumber_eq_daysCounted hd hyear hmonth, Date.daysSinceEpoch, hepoch]

end WarehouseAdmin.Time
