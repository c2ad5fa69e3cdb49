/-!
# Decimal integers in text

An unsigned number is an optional `+` and one or more ASCII digits; a signed one may have a `-`
instead. Nothing else is allowed, no blank and no separator, and the value has to lie in the range
that the reader is given.
-/

set_option autoImplicit false

namespace WarehouseAdmin.Text

def digitValue? (c : Char) : Option Nat :=
  if c.isDigit then some (c.toNat - '0'.toNat) else none

/-- Reads digits only; `acc` is the value of those read before. -/
def readDigits (acc : Nat) : List Char → Option Nat
  | [] => some acc
  | c :: rest =>
    match digitValue? c with
    | some d => readDigits (10 * acc + d) rest
    | none => none

/-- Reads one or more digits, with nothing before or after them. -/
def readNat : List Char → Option Nat
  | [] => none
  | c :: rest => readDigits 0 (c :: rest)

/-- Reads a number with an optional sign `+` and of at most `max`. -/
def readUnsigned (max : Nat) (s : String) : Option Nat :=
  let value := match s.toList with
    | '+' :: rest => readNat rest
    | cs => readNat cs
  value.filter (· ≤ max)

/-- Reads a number with an optional sign and between `min` and `max`. -/
def readSigned (min max : Int) (s : String) : Option Int :=
  let value := match s.toList with
    | '+' :: rest => (readNat rest).map Int.ofNat
    | '-' :: rest => (readNat rest).map fun n => -Int.ofNat n
    | cs => (readNat cs).map Int.ofNat
  value.filter fun n => min ≤ n ∧ n ≤ max

def readInt32 (s : String) : Option Int := readSigned (-2147483648) 2147483647 s

def readInt64 (s : String) : Option Int :=
  readSigned (-9223372036854775808) 9223372036854775807 s

def readUInt64 (s : String) : Option Nat := readUnsigned 18446744073709551615 s

/-- The digits of `n`, filled up with zeros on the left to at least `width`. -/
def padded (width n : Nat) : String :=
  let digits := Nat.toDigits 10 n
  String.ofList (List.replicate (width - digits.length) '0' ++ digits)

example : readInt32 "-2147483648" = some (-2147483648) := by decide
example : readInt32 "2147483648" = none ∧ readInt64 "+7" = some 7 ∧ readInt64 "-" = none := by decide
example : readUInt64 "-0" = none ∧ readUInt64 "+0" = some 0 := by decide

end WarehouseAdmin.Text
