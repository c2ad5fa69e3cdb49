import WarehouseAdmin.Proofs.Time.Count
import WarehouseAdmin.Proofs.Time.Timestamp

/-!
# One instant in every spelling

A timestamp comes with `T` or a blank between date and time, with a colon in its offset or without
one, with a blank before the offset or without one, and with no offset at all. The strict form is
tried first; it takes what it can read, and refuses a blank before the offset and a text that ends
without one (`readStrictOffset_blank`). So no text is read in another way than the one it is written
in, and as both forms find the same date, time and offset in it, all spellings of a local time are
the same instant (`Instant.read_spelled`).

What that instant is does not come from the reader. A local time knows its own instant
(`LocalTime.instant`): its days are counted by the calendar, and nothing is parsed.
-/

set_option autoImplicit false

namespace WarehouseAdmin.Time

/-! ## Local times and offsets -/

/-- The digits of a fraction of a second. -/
structure Fraction where
  digits : List Char
  isDigit : ∀ c ∈ digits, c.isDigit = true
  length_le : digits.length ≤ 9

namespace Fraction

/-- The fraction as it is written: without digits, there is no point either. -/
def text (f : Fraction) : String := if f.digits = [] then "" else String.ofList ('.' :: f.digits)

def nanos (f : Fraction) : Nat :=
  Nat.ofDigitChars 10 f.digits 0 * Decimal.tenTo (9 - f.digits.length)

end Fraction

/-- How far a place is ahead of UTC, or behind it. -/
structure Offset where
  behind : Bool
  hours : Nat
  minutes : Nat
  hours_le : hours ≤ 23
  minutes_le : minutes ≤ 59

namespace Offset

def sign (o : Offset) : Char := if o.behind then '-' else '+'

def factor (o : Offset) : Int := if o.behind then -1 else 1

def seconds (o : Offset) : Int := o.factor * (o.hours * 3600 + o.minutes * 60 : Nat)

/-- The offset as it is written, with `sep` between hours and minutes. -/
def text (o : Offset) (sep : String) : String :=
  o.sign.toString ++ Text.padded 2 o.hours ++ sep ++ Text.padded 2 o.minutes

end Offset

/-- A date with a year of four digits, and a time of day on it. -/
structure LocalTime where
  date : Date
  hour : Nat
  minute : Nat
  second : Nat
  fraction : Fraction
  date_isValid : date.isValid = true
  year_mem : 0 ≤ date.year ∧ date.year ≤ 9999
  hour_le : hour ≤ 23
  minute_le : minute ≤ 59
  second_le : second ≤ 60

namespace LocalTime

/-- The instant of a local time at a place that is `offset` seconds ahead of UTC: days, hours,
minutes and seconds added up. Second 60 is second 59 with a thousand million nanoseconds more. -/
def instant (l : LocalTime) (offset : Int) : Instant where
  seconds := l.date.daysSinceEpoch * 86400 + l.hour * 3600 + l.minute * 60 +
    (if l.second = 60 then 59 else l.second) - offset
  nanos := l.fraction.nanos + if l.second = 60 then 1000000000 else 0

/-- The local time as it is written, with `mark` between date and time. -/
def text (l : LocalTime) (mark : Char) : String :=
  l.date.text ++ mark.toString ++ Text.padded 2 l.hour ++ ":" ++ Text.padded 2 l.minute ++ ":" ++
    Text.padded 2 l.second ++ l.fraction.text

end LocalTime

/-- The spellings of a local time with its offset. -/
inductive Spelling where
  /-- As in `2024-01-02T03:04:05.5+01:30`. -/
  | strict
  /-- As in `2024-01-02 03:04:05.5 +0130`. -/
  | apart
  /-- As in `2024-01-02 03:04:05.5+01:30`. -/
  | attached
deriving DecidableEq

def Spelling.text (l : LocalTime) (o : Offset) : Spelling → String
  | strict => l.text 'T' ++ o.text ":"
  | apart => l.text ' ' ++ " " ++ o.text ""
  | attached => l.text ' ' ++ o.text ":"

/-! ## The instant of a local time -/

namespace LocalTime

/-- The time of day as the readers know it. -/
def clock (l : LocalTime) : ClockTime := ⟨l.hour, l.minute, l.second, l.fraction.nanos⟩

theorem clock_isValid (l : LocalTime) : l.clock.isValid = true :=
  ClockTime.isValid_iff.mpr ⟨⟨l.hour_le, l.minute_le⟩, l.second_le⟩

theorem dayNumber_eq (l : LocalTime) : l.date.dayNumber = l.date.daysSinceEpoch :=
  Date.dayNumber_eq_daysSinceEpoch l.date_isValid l.year_mem.1
    (Date.month_le_of_isValid l.date_isValid)

theorem ofLocal_clock (l : LocalTime) (offset : Int) :
    Instant.ofLocal l.date l.clock offset = l.instant offset := by
  have hsecond := l.second_le
  have hclock : l.clock.second = l.second := rfl
  by_cases hleap : l.second = 60
  · have hmin : min l.second 59 = 59 := by omega
    rw [Instant.ofLocal, instant, dayNumber_eq, hclock, if_pos hleap, if_pos hleap, if_pos hleap,
      hmin]
    simp only [clock, Instant.mk.injEq, and_true]
    omega
  · have hmin : min l.second 59 = l.second := by omega
    rw [Instant.ofLocal, instant, dayNumber_eq, hclock, if_neg hleap, if_neg hleap, if_neg hleap,
      hmin]
    simp only [clock, Instant.mk.injEq, Nat.add_zero, and_true]
    omega

/-- The days of the years with four digits are within four million days of 1970. -/
theorem dayNumber_bounds (l : LocalTime) :
    -4000000 ≤ l.date.dayNumber ∧ l.date.dayNumber ≤ 4000000 := by
  obtain ⟨hlow, hhigh⟩ := l.year_mem
  have hday := Date.day_le_of_isValid l.date_isValid
  have hmonth : daysBeforeMonth ((l.date.month + 9) % 12) ≤ 340 := by
    unfold daysBeforeMonth
    omega
  simp only [Date.dayNumber, daysBeforeYear]
  split <;> omega

theorem instant?_clock (l : LocalTime) {offset : Int} (hlow : -86400 < offset)
    (hhigh : offset < 86400) :
    Written.instant? ⟨l.date, l.clock, offset⟩ = some (l.instant offset) := by
  have hbounds := l.dayNumber_bounds
  have hseconds : (l.instant offset).seconds = l.date.dayNumber * 86400 + l.hour * 3600 +
      l.minute * 60 + (if l.second = 60 then 59 else l.second) - offset := by
    rw [dayNumber_eq]
    rfl
  have hhour := l.hour_le
  have hminute := l.minute_le
  have hsecond : (if l.second = 60 then 59 else l.second) ≤ 59 := by
    have := l.second_le
    split <;> omega
  have hrange : yearInRange (l.instant offset).date.year = true := by
    refine yearInRange_ofDayNumber ?_ ?_ <;> omega
  simp only [Written.instant?, l.date_isValid, l.clock_isValid, ofLocal_clock, hrange,
    Bool.and_self, if_true]

end LocalTime

/-! ## Reading the parts -/

namespace Fraction

theorem readFraction_text (f : Fraction) {rest : List Char} (hrest : endsSecond rest = true) :
    readFraction (f.text.toList ++ rest) = some (f.nanos, rest) := by
  by_cases hdigits : f.digits = []
  · rw [text, nanos, if_pos hdigits, hdigits]
    exact readFraction_absent hrest
  · rw [text, if_neg hdigits, String.toList_ofList]
    exact readFraction_digits hdigits f.isDigit f.length_le hrest

/-- A fraction ends in a digit, if there is one. -/
theorem closesTidy_append (f : Fraction) {s : String}
    (hs : Text.opensTidy s.toList.reverse = true) :
    Text.opensTidy (s ++ f.text).toList.reverse = true := by
  by_cases hdigits : f.digits = []
  · rwa [text, if_pos hdigits, String.append_empty]
  · refine Text.closesTidy_append ?_
    rw [text, if_neg hdigits, String.toList_ofList, List.reverse_cons]
    exact Text.opensTidy_append (Text.closesTidy_digits hdigits f.isDigit)

end Fraction

namespace Offset

variable (o : Offset)

theorem seconds_bounds : -86400 < o.seconds ∧ o.seconds < 86400 := by
  have := o.hours_le
  have := o.minutes_le
  unfold seconds factor
  split <;> omega

theorem toList_text (sep : String) :
    (o.text sep).toList = o.sign :: ((Text.padded 2 o.hours).toList ++
      (sep.toList ++ (Text.padded 2 o.minutes).toList)) := by
  simp [text]

theorem sign_cases : o.sign = '+' ∨ o.sign = '-' := (ite_eq_or_eq _ _ _).symm

theorem endsSecond_text (sep : String) :
    endsSecond (o.text sep).toList = true := by
  rw [toList_text]
  rcases o.sign_cases with h | h <;> rw [h] <;> rfl

theorem readSign_cons {rest : List Char} : readSign (o.sign :: rest) = some (o.factor, rest) := by
  unfold sign factor
  split <;> rfl

theorem offsetSeconds_eq : offsetSeconds o.factor o.hours o.minutes = some o.seconds :=
  if_pos ⟨o.hours_le, o.minutes_le⟩

theorem readHours {rest : List Char} :
    readFixed 2 ((Text.padded 2 o.hours).toList ++ rest) = some (o.hours, rest) :=
  readFixed_pair (Nat.le_trans o.hours_le (by decide))

theorem readMinutes : readFixed 2 (Text.padded 2 o.minutes).toList = some (o.minutes, []) := by
  have hread : readFixed 2 ((Text.padded 2 o.minutes).toList ++ []) = some (o.minutes, []) :=
    readFixed_pair (Nat.le_trans o.minutes_le (by decide))
  rwa [List.append_nil] at hread

/-- The strict form reads an offset with a colon. -/
theorem readStrictOffset_text : readStrictOffset (o.text ":").toList = some o.seconds := by
  have hcolon : ":".toList ++ (Text.padded 2 o.minutes).toList =
      ':' :: (Text.padded 2 o.minutes).toList := rfl
  rw [toList_text, hcolon, readStrictOffset]
  · refine (bind_of_eq_some o.readSign_cons).trans ?_
    refine (bind_of_eq_some o.readHours).trans ?_
    refine (bind_of_eq_some expect_cons).trans ?_
    refine (bind_of_eq_some o.readMinutes).trans ?_
    exact o.offsetSeconds_eq
  -- The sign is not the `Z` that stands for UTC.
  all_goals
    intro heq
    have hsign := (List.cons.inj heq).1
    rcases o.sign_cases with h | h <;> exact absurd (h.symm.trans hsign) (by decide)

/-- Neither colons nor blanks have to be skipped before the minutes. -/
theorem dropWhile_minutes : (Text.padded 2 o.minutes).toList.dropWhile
    (fun c => c == ':' || Text.isBlank c) = (Text.padded 2 o.minutes).toList := by
  have hdigits : ∀ c ∈ (Text.padded 2 o.minutes).toList, c.isDigit = true :=
    Text.isDigit_of_mem_padded
  cases hchars : (Text.padded 2 o.minutes).toList with
  | nil => rfl
  | cons c cs =>
    rw [hchars, List.forall_mem_cons] at hdigits
    have hblank : Text.isBlank c = false := (Text.digit_plain hdigits.1).1
    have hcolon : (c == ':') = false := by
      rw [beq_eq_false_iff_ne]
      rintro rfl
      exact absurd hdigits.1 (by decide)
    rw [List.dropWhile_cons, hcolon, hblank]
    rfl

/-- The loose form reads an offset without a colon, behind a blank. -/
theorem readLooseOffset_text : readLooseOffset (' ' :: (o.text "").toList) = some o.seconds := by
  have htrim : Text.trimLeft (' ' :: (o.text "").toList) = (o.text "").toList := by
    have hopens : Text.opensTidy (o.text "").toList = true := by
      rw [toList_text, Text.opensTidy_cons]
      rcases o.sign_cases with h | h <;> rw [h] <;> decide
    rw [Text.trimLeft_cons, if_pos (by decide), Text.trimLeft_eq_self hopens]
  rw [readLooseOffset, htrim, toList_text, String.toList_empty, List.nil_append]
  simp only [List.isEmpty_cons, Bool.false_eq_true, if_false]
  refine (bind_of_eq_some o.readSign_cons).trans ?_
  refine (bind_of_eq_some o.readHours).trans ?_
  simp only [dropWhile_minutes]
  refine (bind_of_eq_some o.readMinutes).trans ?_
  exact o.offsetSeconds_eq

end Offset

/-- The strict form refuses a blank where the offset begins. -/
theorem readStrictOffset_blank {rest : List Char} : readStrictOffset (' ' :: rest) = none := by
  rw [readStrictOffset]
  · rfl
  all_goals
    intro heq
    exact absurd (List.cons.inj heq).1 (by decide)

/-! ## Reading the whole -/

namespace LocalTime

variable (l : LocalTime)

theorem toList_text (mark : Char) :
    (l.text mark).toList =
      l.date.text.toList ++ mark :: (l.clock.wholeText.toList ++ l.fraction.text.toList) := by
  simp [text, ClockTime.wholeText, clock]

theorem readStrict_text {mark : Char} {rest : List Char} (hmark : isDateTimeMark mark = true)
    (hrest : endsSecond rest = true) :
    readStrict ((l.text mark).toList ++ rest) =
      (readStrictOffset rest).map (Written.mk l.date l.clock) := by
  have hread := readStrict_append l.date_isValid l.year_mem l.clock_isValid hmark
    (l.fraction.readFraction_text hrest)
  rw [toList_text]
  simpa only [List.append_assoc, List.cons_append] using hread

/-- With an offset that has a colon, the strict form takes the whole text. -/
theorem readStrict_text_offset (o : Offset) {mark : Char} (hmark : isDateTimeMark mark = true) :
    readStrict (l.text mark ++ o.text ":").toList = some ⟨l.date, l.clock, o.seconds⟩ := by
  rw [String.toList_append, l.readStrict_text hmark (o.endsSecond_text ":"),
    o.readStrictOffset_text, Option.map_some]

theorem readLoose_text {rest : List Char} (hrest : endsSecond rest = true) :
    readLoose ((l.text ' ').toList ++ rest) =
      (readLooseOffset rest).map (Written.mk l.date l.clock) := by
  have hread := readLoose_append l.date_isValid l.year_mem l.clock_isValid
    (l.fraction.readFraction_text hrest)
  rw [toList_text]
  simpa only [List.append_assoc, List.cons_append] using hread

theorem opensTidy_text (mark : Char) : Text.opensTidy (l.text mark).toList = true := by
  rw [toList_text]
  exact Text.opensTidy_append (Date.opensTidy_text l.year_mem)

theorem isTidy_text (mark : Char) : Text.isTidy (l.text mark) = true := by
  have hcloses : Text.opensTidy (l.text mark).toList.reverse = true :=
    l.fraction.closesTidy_append (Text.closesTidy_append Text.closesTidy_padded)
  rw [Text.isTidy, l.opensTidy_text, hcloses]
  rfl

end LocalTime

theorem Spelling.isTidy_text (l : LocalTime) (o : Offset) (s : Spelling) :
    Text.isTidy (s.text l o) = true := by
  have hcloses : ∀ sep : String, Text.opensTidy (o.text sep).toList.reverse = true :=
    fun _ => Text.closesTidy_append Text.closesTidy_padded
  cases s with
  | strict => exact Text.isTidy_append (l.opensTidy_text 'T') (hcloses ":")
  | apart =>
    rw [text, String.append_assoc]
    exact Text.isTidy_append (l.opensTidy_text ' ') (Text.closesTidy_append (hcloses ""))
  | attached => exact Text.isTidy_append (l.opensTidy_text ' ') (hcloses ":")

namespace Instant

variable {s before after : String}

/-- The strict form goes first, and what it reads counts. -/
theorem read_of_readStrict {w : Written} (hbefore : Text.isBlankText before = true)
    (hafter : Text.isBlankText after = true) (hs : Text.isTidy s = true)
    (hread : readStrict s.toList = some w) {i : Instant} (hi : w.instant? = some i) :
    read (before ++ s ++ after) = some i := by
  rw [read, Text.trimChars_surrounded hbefore hafter hs, hread, Option.bind_some, hi,
    Option.some_or]

/-- The loose form is tried where the strict one fails. -/
theorem read_of_readLoose {w : Written} (hbefore : Text.isBlankText before = true)
    (hafter : Text.isBlankText after = true) (hs : Text.isTidy s = true)
    (hstrict : readStrict s.toList = none) (hread : readLoose s.toList = some w) :
    read (before ++ s ++ after) = w.instant? := by
  rw [read, Text.trimChars_surrounded hbefore hafter hs, hstrict, hread, Option.bind_none,
    Option.none_or, Option.bind_some]

/-- **All spellings of a local time are one instant**, and it is the one that days, hours, minutes
and seconds add up to. Without an offset, the time is that of a place with offset zero. -/
theorem read_spelled (l : LocalTime) (o : Offset) (hbefore : Text.isBlankText before = true)
    (hafter : Text.isBlankText after = true) :
    (∀ s : Spelling, read (before ++ s.text l o ++ after) = some (l.instant o.seconds)) ∧
      read (before ++ l.text ' ' ++ after) = some (l.instant 0) := by
  obtain ⟨hlow, hhigh⟩ := o.seconds_bounds
  have hinstant := l.instant?_clock hlow hhigh
  refine ⟨fun s => ?_, ?_⟩
  · have htidy := s.isTidy_text l o
    cases s with
    | strict =>
      exact read_of_readStrict hbefore hafter htidy (l.readStrict_text_offset o rfl) hinstant
    | apart =>
      have hchars : (Spelling.apart.text l o).toList =
          (l.text ' ').toList ++ ' ' :: (o.text "").toList := by
        simp [Spelling.text]
      have hstrict : readStrict (Spelling.apart.text l o).toList = none := by
        rw [hchars, l.readStrict_text rfl rfl, readStrictOffset_blank, Option.map_none]
      have hloose : readLoose (Spelling.apart.text l o).toList =
          some ⟨l.date, l.clock, o.seconds⟩ := by
        rw [hchars, l.readLoose_text rfl, o.readLooseOffset_text, Option.map_some]
      exact (read_of_readLoose hbefore hafter htidy hstrict hloose).trans hinstant
    | attached =>
      exact read_of_readStrict hbefore hafter htidy (l.readStrict_text_offset o rfl) hinstant
  · have hstrict : readStrict (l.text ' ').toList = none := by
      rw [← List.append_nil (l.text ' ').toList, l.readStrict_text rfl rfl]
      rfl
    have hloose : readLoose (l.text ' ').toList = some ⟨l.date, l.clock, 0⟩ := by
      rw [← List.append_nil (l.text ' ').toList, l.readLoose_text rfl]
      rfl
    have hutc := l.instant?_clock (by decide : -86400 < (0 : Int)) (by decide)
    exact (read_of_readLoose hbefore hafter (l.isTidy_text ' ') hstrict hloose).trans hutc

/-- Half a second after the beginning of the leap second of 2016. -/
def leapSecond : LocalTime where
  date := ⟨2016, 12, 31⟩
  hour := 23
  minute := 59
  second := 60
  fraction := ⟨['5'], List.forall_mem_singleton.mpr rfl, by decide⟩
  date_isValid := by decide
  year_mem := by decide
  hour_le := by decide
  minute_le := by decide
  second_le := by decide

/-- As far behind UTC as an offset goes. -/
def westernmost : Offset := ⟨true, 23, 59, by decide, by decide⟩

/-- With its offset, the leap second is on the first day of the next year. -/
theorem read_spelled_leapSecond :
    (Text.isBlankText " " = true ∧ Text.isBlankText "\n" = true) ∧
      (leapSecond.text 'T' ++ westernmost.text ":" = "2016-12-31T23:59:60.5-23:59" ∧
        leapSecond.instant westernmost.seconds = ⟨1483315139, 1500000000⟩) ∧
      (∀ s : Spelling, read (" " ++ s.text leapSecond westernmost ++ "\n") =
        some (leapSecond.instant westernmost.seconds)) ∧
      read (" " ++ leapSecond.text ' ' ++ "\n") = some (leapSecond.instant 0) := by
  have hdays : leapSecond.date.daysSinceEpoch = 17166 := by
    rw [← leapSecond.dayNumber_eq]
    decide
  have hinstant : leapSecond.instant westernmost.seconds = ⟨1483315139, 1500000000⟩ := by
    rw [LocalTime.instant, hdays]
    decide
  exact ⟨⟨by decide, by decide⟩, ⟨by decide, hinstant⟩,
    read_spelled leapSecond westernmost (by decide) (by decide)⟩

end Instant

end WarehouseAdmin.Time
