import WarehouseAdmin.Text.Blank
import WarehouseAdmin.Decimal.Power
import WarehouseAdmin.Time.Instant

/-!
# Reading timestamps

A timestamp is written in one of two forms. The strict one is that of RFC 3339: every number has its
full width, and the offset is not left out. The loose one allows short numbers, blanks before a
number, a signed year, and an offset that is left out (which means UTC) or has any colons and blanks
between its hours and minutes. Both allow a fraction of the second, of which nine digits count.
-/

set_option autoImplicit false

namespace WarehouseAdmin.Time

/-- What a reader finds at the head of a text, with the text behind it. -/
abbrev Found (α : Type) := Option (α × List Char)

def expect (c : Char) : List Char → Option (List Char)
  | [] => none
  | d :: rest => if d = c then some rest else none

/-- The value of a run of digits. -/
def digitsValue (ds : List Char) : Nat := ds.foldl (fun n d => 10 * n + (d.toNat - '0'.toNat)) 0

/-- Reads between `least` and `most` digits, as many as there are. -/
def readDigitRun (least most : Nat) (cs : List Char) : Found Nat :=
  let ds := (cs.take most).takeWhile Char.isDigit
  if ds.length < least then none else some (digitsValue ds, cs.drop ds.length)

def readFixed (n : Nat) (cs : List Char) : Found Nat := readDigitRun n n cs

/-- Skips blanks and reads one or two digits. -/
def readShort (cs : List Char) : Found Nat := readDigitRun 1 2 (Text.trimLeft cs)

/-- Reads an optional point and the digits behind it, as nanoseconds. -/
def readFraction : List Char → Found Nat
  | '.' :: rest =>
    let ds := rest.takeWhile Char.isDigit
    if ds.isEmpty then none
    else
      let counted := ds.take 9
      some (digitsValue counted * Decimal.tenTo (9 - counted.length), rest.dropWhile Char.isDigit)
  | cs => some (0, cs)

/-- Reads a plus or minus sign as a factor; the minus may be the typographic one. -/
def readSign : List Char → Found Int
  | '+' :: rest => some (1, rest)
  | '-' :: rest => some (-1, rest)
  | '\u2212' :: rest => some (-1, rest)
  | _ => none

/-- The offset of whole hours and minutes, in seconds. It is less than a day. -/
def offsetSeconds (sign : Int) (hours minutes : Nat) : Option Int :=
  if hours ≤ 23 ∧ minutes ≤ 59 then some (sign * (hours * 3600 + minutes * 60 : Nat)) else none

/-- Reads the offset of the strict form, at the end of the text. -/
def readStrictOffset (cs : List Char) : Option Int :=
  match cs with
  | ['Z'] | ['z'] => some 0
  | _ => do
    let (sign, cs) ← readSign cs
    let (hours, cs) ← readFixed 2 cs
    let cs ← expect ':' cs
    let (minutes, cs) ← readFixed 2 cs
    if cs.isEmpty then offsetSeconds sign hours minutes else none

/-- Reads the offset of the loose form, at the end of the text. -/
def readLooseOffset (cs : List Char) : Option Int := do
  let cs := Text.trimLeft cs
  if cs.isEmpty then some 0
  else
    let (sign, cs) ← readSign cs
    let (hours, cs) ← readFixed 2 cs
    let (minutes, cs) ← readFixed 2 (cs.dropWhile fun c => c == ':' || Text.isBlank c)
    if cs.isEmpty then offsetSeconds sign hours minutes else none

/-- Reads the year of the loose form: up to four digits, or any number of them behind a sign. -/
def readYear (cs : List Char) : Found Int :=
  match Text.trimLeft cs with
  | '+' :: rest => (readDigitRun 1 rest.length rest).map fun (n, r) => ((n : Int), r)
  | '-' :: rest => (readDigitRun 1 rest.length rest).map fun (n, r) => (-(n : Int), r)
  | rest => (readDigitRun 1 4 rest).map fun (n, r) => ((n : Int), r)

/-- A date, a time of day and an offset, as written. -/
structure Written where
  date : Date
  time : ClockTime
  offset : Int
deriving DecidableEq, Repr

/-- The instant that is meant, if date and time exist and the calendar covers the instant's date. -/
def Written.instant? (w : Written) : Option Instant :=
  if w.date.isValid && w.time.isValid then
    let i := Instant.ofLocal w.date w.time w.offset
    if yearInRange i.date.year then some i else none
  else none

/-- Says whether the character may stand between date and time in the strict form. -/
def isDateTimeMark (c : Char) : Bool := c == 'T' || c == 't' || c == ' '

def readStrict (cs : List Char) : Option Written := do
  let (year, cs) ← readFixed 4 cs
  let cs ← expect '-' cs
  let (month, cs) ← readFixed 2 cs
  let cs ← expect '-' cs
  let (day, cs) ← readFixed 2 cs
  let cs ← match cs with
    | c :: rest => if isDateTimeMark c then some rest else none
    | [] => none
  let (hour, cs) ← readFixed 2 cs
  let cs ← expect ':' cs
  let (minute, cs) ← readFixed 2 cs
  let cs ← expect ':' cs
  let (second, cs) ← readFixed 2 cs
  let (nanos, cs) ← readFraction cs
  let offset ← readStrictOffset cs
  return ⟨⟨year, month, day⟩, ⟨hour, minute, second, nanos⟩, offset⟩

def readLoose (cs : List Char) : Option Written := do
  let (year, cs) ← readYear cs
  let cs ← expect '-' cs
  let (month, cs) ← readShort cs
  let cs ← expect '-' cs
  let (day, cs) ← readShort cs
  let (hour, cs) ← readShort cs
  let cs ← expect ':' cs
  let (minute, cs) ← readShort cs
  let cs ← expect ':' cs
  let (second, cs) ← readShort cs
  let (nanos, cs) ← readFraction cs
  let offset ← readLooseOffset cs
  return ⟨⟨year, month, day⟩, ⟨hour, minute, second, nanos⟩, offset⟩

/-- Reads a timestamp in either form, with blanks around it. -/
def Instant.read (s : String) : Option Instant :=
  let cs := Text.trimChars s.toList
  ((readStrict cs).bind Written.instant?).or ((readLoose cs).bind Written.instant?)

end WarehouseAdmin.Time
