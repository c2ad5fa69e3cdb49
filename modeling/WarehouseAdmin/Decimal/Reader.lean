import WarehouseAdmin.Text.Letters
import WarehouseAdmin.Text.Number
import WarehouseAdmin.Decimal.Nearest

/-!
# Reading floating-point numbers

The grammar is an optional sign and then either one of the words `inf`, `infinity` and `nan` in any
case, or decimal digits with an optional point (at least one digit on either side) and an optional
exponent. The value is the nearest floating-point number; what is too large becomes infinite.
-/

set_option autoImplicit false

namespace WarehouseAdmin.Decimal

/-- What the text of a number denotes. -/
inductive Reading where
  | notANumber
  | infinite (negative : Bool)
  /-- The number `digits * 10 ^ exponent`, negated if `negative`. -/
  | decimal (negative : Bool) (digits : Nat) (exponent : Int)
deriving DecidableEq, Repr

/-- Reads the part of a number after its mantissa: nothing, or `e` or `E` and an exponent. -/
def readExponent : List Char → Option Int
  | [] => some 0
  | 'e' :: rest | 'E' :: rest =>
    match rest with
    | '+' :: ds => (Text.readNat ds).map Int.ofNat
    | '-' :: ds => (Text.readNat ds).map fun n => -Int.ofNat n
    | ds => (Text.readNat ds).map Int.ofNat
  | _ => none

def readUnsignedNumber (negative : Bool) (cs : List Char) : Option Reading :=
  let whole := cs.takeWhile Char.isDigit
  let rest := cs.dropWhile Char.isDigit
  let (fraction, rest) := match rest with
    | '.' :: r => (r.takeWhile Char.isDigit, r.dropWhile Char.isDigit)
    | r => ([], r)
  match Text.readNat (whole ++ fraction), readExponent rest with
  | some digits, some e => some (.decimal negative digits (e - fraction.length))
  | _, _ => none

def read (s : String) : Option Reading :=
  let (negative, cs) := match s.toList with
    | '-' :: rest => (true, rest)
    | '+' :: rest => (false, rest)
    | cs => (false, cs)
  let word := cs.map Char.toLower
  if word = "nan".toList then some .notANumber
  else if word = "inf".toList || word = "infinity".toList then some (.infinite negative)
  else readUnsignedNumber negative cs

/-- Says of a positive `digits * 10 ^ exponent` whether it exceeds every number of 64 bits, or is
below half of the least one; only what lies between has to be scaled. -/
def beyondRange (digits : Nat) (exponent : Int) : Option Bool :=
  let magnitude := (Nat.toDigits 10 digits).length + exponent
  if digits = 0 || magnitude < -330 then some false
  else if magnitude > 320 then some true
  else none

/-- The number that was read, where `ofRatio` rounds a positive quotient. -/
def Reading.roundBy (ofRatio : Nat → Nat → Float) : Reading → Float
  | .notANumber => 0.0 / 0.0
  | .infinite negative => if negative then -1.0 / 0.0 else 1.0 / 0.0
  | .decimal negative digits exponent =>
    let x := match beyondRange digits exponent with
      | some true => 1.0 / 0.0
      | some false => 0.0
      | none => ofRatio (digits * tenTo exponent.toNat) (tenTo (-exponent).toNat)
    if negative then -x else x

def Reading.toFloat (r : Reading) : Float := r.roundBy floatOfRatio

/-- The number of 32 bits nearest to what was read, as a number of 64 bits. -/
def Reading.toNarrowFloat (r : Reading) : Float := r.roundBy narrowFloatOfRatio

def readFloat (s : String) : Option Float := (read s).map Reading.toFloat

end WarehouseAdmin.Decimal
