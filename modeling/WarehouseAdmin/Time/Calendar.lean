/-!
# The Gregorian calendar

Days are counted from 1970-01-01, in both directions. The counting year starts on 1 March, so that
the leap day is its last one: `dayNumber` adds up the days of whole years and months, and `dateOf`
takes a day number apart again.
-/

set_option autoImplicit false

namespace WarehouseAdmin.Time

structure Date where
  year : Int
  month : Nat
  day : Nat
deriving DecidableEq, Repr, Inhabited

/-- Leap years are the multiples of four, without those of a hundred that are none of four hundred. -/
def isLeapYear (year : Int) : Bool := year % 4 == 0 && (year % 100 != 0 || year % 400 == 0)

/-- The number of days of a month, zero for a number that names no month. -/
def daysInMonth (year : Int) : (month : Nat) → Nat
  | 2 => if isLeapYear year then 29 else 28
  | 4 | 6 | 9 | 11 => 30
  | 1 | 3 | 5 | 7 | 8 | 10 | 12 => 31
  | _ => 0

/-- The years that the calendar covers. -/
def yearInRange (year : Int) : Bool := -262143 ≤ year && year ≤ 262142

def Date.isValid (d : Date) : Bool :=
  yearInRange d.year && 1 ≤ d.day && d.day ≤ daysInMonth d.year d.month

/-- The number of days from 1 March of year 0 to 1 March of `year`. -/
def daysBeforeYear (year : Int) : Int := 365 * year + year / 4 - year / 100 + year / 400

/-- The number of days before a month of the year that starts in March; March is month 0. -/
def daysBeforeMonth (m : Nat) : Nat := (153 * m + 2) / 5

/-- The number of days from 1970-01-01 to the date. -/
def Date.dayNumber (d : Date) : Int :=
  let year := if d.month ≤ 2 then d.year - 1 else d.year
  daysBeforeYear year + daysBeforeMonth ((d.month + 9) % 12) + (d.day : Int) - 1 - 719468

def Date.ofDayNumber (n : Int) : Date :=
  let z := n + 719468
  let era := z / 146097
  let dayOfEra := (z % 146097).toNat
  let yearOfEra := (dayOfEra - dayOfEra / 1460 + dayOfEra / 36524 - dayOfEra / 146096) / 365
  let dayOfYear := dayOfEra - (365 * yearOfEra + yearOfEra / 4 - yearOfEra / 100)
  let m := (5 * dayOfYear + 2) / 153
  let month := if m < 10 then m + 3 else m - 9
  let year := (yearOfEra : Int) + 400 * era
  { year := if month ≤ 2 then year + 1 else year
    month := month
    day := dayOfYear - daysBeforeMonth m + 1 }

example : (Date.mk 1970 1 1).dayNumber = 0 ∧ (Date.mk 2000 3 1).dayNumber = 11017 := by decide
example : Date.ofDayNumber (-1) = ⟨1969, 12, 31⟩ ∧ Date.ofDayNumber 11016 = ⟨2000, 2, 29⟩ := by decide

end WarehouseAdmin.Time
