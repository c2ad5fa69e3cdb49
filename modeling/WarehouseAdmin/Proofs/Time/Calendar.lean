import Mathlib.Tactic.IntervalCases
import WarehouseAdmin.Time.Calendar

/-!
# Days and dates

A date is found from a day number by a chain of divisions, and the divisors are not the lengths of
anything: a century has 36524 days or one more, four years have 1461 or one less. What the chain
finds is a place in the cycle of 400 years that the calendar repeats, `CycleDay`. Its invariants are
the leap rule, said once: the last day of a year is there if the year ends four years, and these do
not end a century, or else end the cycle. Every day of the cycle has such a place
(`exists_cycleDay`), the divisions find it (`yearOfEra_eq`), and so a date that was found from a day
number exists, and has that number (`dayNumber_ofDayNumber`, `isValid_ofDayNumber`).
-/

set_option autoImplicit false

namespace WarehouseAdmin.Time

/-- A day of the 400 years from March to February that the calendar repeats: which century it lies
in, which four years of it, which of these years, and which day of that year. -/
structure CycleDay where
  century : Nat
  quad : Nat
  year : Nat
  day : Nat
  century_le : century ≤ 3
  quad_le : quad ≤ 24
  year_le : year ≤ 3
  day_le : day ≤ 365
  /-- The 366th day ends four years, and not a century that does not end the cycle. -/
  leap : day = 365 → year = 3 ∧ (quad = 24 → century = 3)

namespace CycleDay

/-- The number of years before that of the day. -/
def years (p : CycleDay) : Nat := 100 * p.century + 4 * p.quad + p.year

/-- The number of days before the day. -/
def days (p : CycleDay) : Nat := 36524 * p.century + 1461 * p.quad + 365 * p.year + p.day

theorem years_lt (p : CycleDay) : p.years < 400 := by
  have := p.century_le
  have := p.quad_le
  have := p.year_le
  unfold years
  omega

theorem days_lt (p : CycleDay) : p.days < 146097 := by
  have := p.century_le
  have := p.quad_le
  have := p.year_le
  have := p.day_le
  have := p.leap
  unfold days
  omega

/-- Years of 365 days, one day more for each four years, and one less for each century. -/
theorem days_eq (p : CycleDay) :
    p.days = 365 * p.years + p.years / 4 - p.years / 100 + p.day := by
  have := p.quad_le
  have := p.year_le
  have hquads : p.years / 4 = 25 * p.century + p.quad := by
    unfold years
    omega
  have hcenturies : p.years / 100 = p.century := by
    unfold years
    omega
  rw [hquads, hcenturies]
  unfold days years
  omega

end CycleDay

/-- **Every day of the cycle has its place.** -/
theorem exists_cycleDay {d : Nat} (hd : d < 146097) : ∃ p : CycleDay, p.days = d := by
  -- The last day of the cycle would begin a fifth century, and that of four years a fifth year.
  obtain ⟨c, r, hc, hr, hcentury⟩ :
      ∃ c r, d = 36524 * c + r ∧ c ≤ 3 ∧ (r < 36524 ∨ (c = 3 ∧ r = 36524)) := by
    refine ⟨min (d / 36524) 3, d - 36524 * min (d / 36524) 3, ?_, ?_, ?_⟩ <;> omega
  obtain ⟨q, s, hq, hs⟩ : ∃ q s, r = 1461 * q + s ∧ s < 1461 := by
    refine ⟨r / 1461, r % 1461, ?_, ?_⟩ <;> omega
  obtain ⟨y, e, hy, he, hyear⟩ :
      ∃ y e, s = 365 * y + e ∧ y ≤ 3 ∧ (e < 365 ∨ (y = 3 ∧ e = 365)) := by
    refine ⟨min (s / 365) 3, s - 365 * min (s / 365) 3, ?_, ?_, ?_⟩ <;> omega
  refine ⟨⟨c, q, y, e, hr, by omega, he, by omega, fun hlast => ⟨by omega, fun hquad => ?_⟩⟩, ?_⟩
  · omega
  · simp only [CycleDay.days]
    omega

/-- **The divisions find the year.** What is taken off the day number makes all years as long as 365
days; the 366th day does not fall out of its year, because the four years before it are counted as
complete already. -/
theorem yearOfEra_eq (p : CycleDay) :
    (p.days - p.days / 1460 + p.days / 36524 - p.days / 146096) / 365 = p.years := by
  have := p.century_le
  have := p.quad_le
  have := p.year_le
  have := p.day_le
  have hleap := p.leap
  have hcenturies : p.days / 36524 - p.days / 146096 = p.century := by
    unfold CycleDay.days
    omega
  -- The days that are left over by the 1460 of each four years can make up for one more four years.
  obtain ⟨k, hquads, hlow, hhigh⟩ : ∃ k, p.days / 1460 = 25 * p.century + p.quad + k ∧
      1460 * k ≤ 24 * p.century + p.quad + 365 * p.year + p.day ∧
      24 * p.century + p.quad + 365 * p.year + p.day < 1460 * (k + 1) := by
    refine ⟨(24 * p.century + p.quad + 365 * p.year + p.day) / 1460, ?_, by omega, by omega⟩
    unfold CycleDay.days
    omega
  have hsum : p.days - p.days / 1460 + p.days / 36524 - p.days / 146096 =
      365 * p.years + (p.day - k) := by
    rw [Nat.add_sub_assoc (Nat.div_le_div_left (by omega) (by omega)), hcenturies, hquads]
    unfold CycleDay.days CycleDay.years
    omega
  have hday : p.day - k < 365 := by omega
  rw [hsum]
  omega

/-! ## The date of a day of the year -/

/-- The month, counted from March, in which a day of the year lies. -/
def monthOfDay (day : Nat) : Nat := (5 * day + 2) / 153

/-- The date of a day of the year that begins on 1 March of `year`. -/
def Date.ofYearDay (year : Int) (day : Nat) : Date :=
  let m := monthOfDay day
  let month := if m < 10 then m + 3 else m - 9
  { year := if month ≤ 2 then year + 1 else year
    month := month
    day := day - daysBeforeMonth m + 1 }

theorem monthOfDay_le {day : Nat} (h : day ≤ 365) : monthOfDay day ≤ 11 := by
  unfold monthOfDay
  omega

theorem daysBeforeMonth_le (day : Nat) : daysBeforeMonth (monthOfDay day) ≤ day := by
  unfold daysBeforeMonth monthOfDay
  omega

/-- January and February belong to the year that began in the March before. -/
theorem ofYearDay_of_lt {year : Int} {day : Nat} (h : monthOfDay day < 10) :
    Date.ofYearDay year day =
      ⟨year, monthOfDay day + 3, day - daysBeforeMonth (monthOfDay day) + 1⟩ := by
  have hmonth : ¬ monthOfDay day + 3 ≤ 2 := by omega
  simp only [Date.ofYearDay, if_pos h, if_neg hmonth]

theorem ofYearDay_of_le {year : Int} {day : Nat} (hday : day ≤ 365) (h : 10 ≤ monthOfDay day) :
    Date.ofYearDay year day =
      ⟨year + 1, monthOfDay day - 9, day - daysBeforeMonth (monthOfDay day) + 1⟩ := by
  have hle := monthOfDay_le hday
  have hlow : ¬ monthOfDay day < 10 := by omega
  have hmonth : monthOfDay day - 9 ≤ 2 := by omega
  simp only [Date.ofYearDay, if_neg hlow, if_pos hmonth]

theorem dayNumber_ofYearDay (year : Int) {day : Nat} (h : day ≤ 365) :
    (Date.ofYearDay year day).dayNumber = daysBeforeYear year + day - 719468 := by
  have hle := monthOfDay_le h
  have hbefore := daysBeforeMonth_le day
  by_cases hm : monthOfDay day < 10
  · have hmonth : (monthOfDay day + 3 + 9) % 12 = monthOfDay day := by omega
    have hyear : ¬ monthOfDay day + 3 ≤ 2 := by omega
    rw [ofYearDay_of_lt hm]
    simp only [Date.dayNumber, if_neg hyear, hmonth]
    omega
  · have hmonth : (monthOfDay day - 9 + 9) % 12 = monthOfDay day := by omega
    have hyear : monthOfDay day - 9 ≤ 2 := by omega
    rw [ofYearDay_of_le h (by omega)]
    simp only [Date.dayNumber, if_pos hyear, hmonth, Int.add_sub_cancel]
    omega

/-- The months have the lengths that their beginnings leave them; the last one has what is left of
the year. -/
theorem day_le_daysInMonth {year : Int} {day : Nat} (hday : day ≤ 365)
    (hleap : day = 365 → isLeapYear (year + 1) = true) :
    (Date.ofYearDay year day).day ≤
      daysInMonth (Date.ofYearDay year day).year (Date.ofYearDay year day).month := by
  have hle := monthOfDay_le hday
  have hlow : 153 * monthOfDay day ≤ 5 * day + 2 := Nat.mul_div_le _ _
  have hhigh : 5 * day + 2 < 153 * (monthOfDay day + 1) := Nat.lt_mul_div_succ _ (by omega)
  simp only [Date.ofYearDay, daysBeforeMonth]
  generalize monthOfDay day = m at hle hlow hhigh
  interval_cases m
  case «11» =>
    by_cases hlong : isLeapYear (year + 1) = true
    · simp [daysInMonth, hlong]
      omega
    · have hshort : day ≠ 365 := fun h => hlong (hleap h)
      simp [daysInMonth, hlong]
      omega
  all_goals
    simp [daysInMonth]
    omega

/-- A day of the year that begins in March has a date that exists, the 366th if the year after is a
leap year. -/
theorem isValid_ofYearDay {year : Int} {day : Nat} (hday : day ≤ 365)
    (hleap : day = 365 → isLeapYear (year + 1) = true)
    (hrange : yearInRange (Date.ofYearDay year day).year = true) :
    (Date.ofYearDay year day).isValid = true := by
  have hlast := day_le_daysInMonth hday hleap
  simp only [Date.isValid, Bool.and_eq_true, decide_eq_true_eq]
  refine ⟨⟨hrange, ?_⟩, hlast⟩
  simp only [Date.ofYearDay]
  omega

theorem ofDayNumber_eq (era : Int) (p : CycleDay) :
    Date.ofDayNumber (146097 * era + p.days - 719468) =
      Date.ofYearDay (p.years + 400 * era) p.day := by
  have hlt := p.days_lt
  have hera : (146097 * era + p.days - 719468 + 719468) / 146097 = era := by omega
  have hrest : ((146097 * era + p.days - 719468 + 719468) % 146097).toNat = p.days := by omega
  have hday : p.days - (365 * p.years + p.years / 4 - p.years / 100) = p.day := by
    rw [p.days_eq, Nat.add_sub_cancel_left]
  simp only [Date.ofDayNumber, hera, hrest, yearOfEra_eq, hday]
  rfl

/-- The place of a day number in the cycle. -/
theorem exists_place (n : Int) :
    ∃ (era : Int) (p : CycleDay), n = 146097 * era + p.days - 719468 := by
  obtain ⟨p, hp⟩ := exists_cycleDay (d := ((n + 719468) % 146097).toNat) (by omega)
  refine ⟨(n + 719468) / 146097, p, ?_⟩
  omega

/-- The calendar goes on for 90 million days, before and after 1970. -/
theorem yearInRange_ofDayNumber {n : Int} (hlow : -90000000 ≤ n) (hhigh : n ≤ 90000000) :
    yearInRange (Date.ofDayNumber n).year = true := by
  obtain ⟨era, p, rfl⟩ := exists_place n
  have hyears := p.years_lt
  have hdays := p.days_lt
  have hera : -620 ≤ era ∧ era ≤ 620 := by omega
  have hyear : (Date.ofYearDay (p.years + 400 * era) p.day).year = p.years + 400 * era ∨
      (Date.ofYearDay (p.years + 400 * era) p.day).year = p.years + 400 * era + 1 := by
    rw [Date.ofYearDay]
    exact (ite_eq_or_eq _ _ _).symm
  rw [ofDayNumber_eq, yearInRange, Bool.and_eq_true, decide_eq_true_eq, decide_eq_true_eq]
  omega

theorem daysBeforeYear_eq (era : Int) (p : CycleDay) :
    daysBeforeYear (p.years + 400 * era) + p.day = 146097 * era + p.days := by
  have := p.years_lt
  have hdays := p.days_eq
  unfold daysBeforeYear
  omega

/-- **The date of a day number has that number.** -/
theorem dayNumber_ofDayNumber (n : Int) : (Date.ofDayNumber n).dayNumber = n := by
  obtain ⟨era, p, rfl⟩ := exists_place n
  rw [ofDayNumber_eq, dayNumber_ofYearDay _ p.day_le, daysBeforeYear_eq]

/-- **The date of a day number exists**, if the calendar goes as far. -/
theorem isValid_ofDayNumber {n : Int} (h : yearInRange (Date.ofDayNumber n).year = true) :
    (Date.ofDayNumber n).isValid = true := by
  obtain ⟨era, p, rfl⟩ := exists_place n
  rw [ofDayNumber_eq] at h ⊢
  refine isValid_ofYearDay p.day_le (fun hlast => ?_) h
  obtain ⟨hyear, hquad⟩ := p.leap hlast
  have := p.quad_le
  have hyears : p.years = 100 * p.century + 4 * p.quad + 3 := by rw [CycleDay.years, hyear]
  simp only [isLeapYear, Bool.and_eq_true, Bool.or_eq_true, beq_iff_eq, bne_iff_ne]
  omega

end WarehouseAdmin.Time
