import WarehouseAdmin.Text.Number
import WarehouseAdmin.Time.Calendar

/-!
# Instants

An instant is a number of seconds since 1970-01-01 00:00:00 UTC, rounded down, and the nanoseconds
since then. A leap second is the second before it with a thousand million nanoseconds more. The
text of an instant is that of RFC 3339 in UTC, with the shortest of 0, 3, 6 and 9 fraction digits.
-/

set_option autoImplicit false

namespace WarehouseAdmin.Time

structure Instant where
  seconds : Int
  nanos : Nat
deriving DecidableEq, Repr, Inhabited

/-- A time of day; second 60 is the leap second. -/
structure ClockTime where
  hour : Nat
  minute : Nat
  second : Nat
  nanos : Nat
deriving DecidableEq, Repr

def ClockTime.isValid (t : ClockTime) : Bool := t.hour ≤ 23 && t.minute ≤ 59 && t.second ≤ 60

/-- The instant of a date and a time of day, at a place that is `offset` seconds ahead of UTC. -/
def Instant.ofLocal (d : Date) (t : ClockTime) (offset : Int) : Instant :=
  let second := min t.second 59
  { seconds := d.dayNumber * 86400 + (t.hour * 3600 + t.minute * 60 + second : Nat) - offset
    nanos := if t.second = 60 then t.nanos + 1000000000 else t.nanos }

def Instant.date (i : Instant) : Date := Date.ofDayNumber (i.seconds / 86400)

/-- The text of a year: four digits, and a sign where that does not suffice. -/
def yearText (year : Int) : String :=
  if 0 ≤ year ∧ year ≤ 9999 then Text.padded 4 year.toNat
  else (if year < 0 then "-" else "+") ++ Text.padded 4 year.natAbs

/-- The fraction of a second with as few groups of three digits as it needs. -/
def secondFraction (nanos : Nat) : String :=
  if nanos = 0 then ""
  else if nanos % 1000000 = 0 then "." ++ Text.padded 3 (nanos / 1000000)
  else if nanos % 1000 = 0 then "." ++ Text.padded 6 (nanos / 1000)
  else "." ++ Text.padded 9 nanos

def Instant.text (i : Instant) : String :=
  let d := i.date
  let rest := (i.seconds % 86400).toNat
  let leap := 1000000000 ≤ i.nanos
  let second := rest % 60 + if leap then 1 else 0
  let nanos := if leap then i.nanos - 1000000000 else i.nanos
  yearText d.year ++ "-" ++ Text.padded 2 d.month ++ "-" ++ Text.padded 2 d.day ++ "T" ++
    Text.padded 2 (rest / 3600) ++ ":" ++ Text.padded 2 (rest / 60 % 60) ++ ":" ++
    Text.padded 2 second ++ secondFraction nanos ++ "+00:00"

end WarehouseAdmin.Time
