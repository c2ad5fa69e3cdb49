import WarehouseAdmin.Json.Lexeme

/-!
# Values that stand in one lexeme

Words are the three constants and numbers. In a quoted text a backslash begins an escape, and no
control character stands as it is. An escape can name half of a surrogate pair; a text with a half
that has no partner is well-formed and yet denotes no text.
-/

set_option autoImplicit false

namespace WarehouseAdmin.Json

inductive Value where
  | null
  | bool (b : Bool)
  /-- A number, with its value if it is written as an integer; minus zero is not. -/
  | number (n : Option Int)
  /-- A text, if what was written denotes one. -/
  | text (s : Option String)
  | array (items : List Value)
  | object (members : List (Option String × Value))
deriving Repr, Inhabited

/-! ## Numbers -/

/-- One or more digits, without a leading zero unless that is all. -/
def isWhole (cs : List Char) : Bool :=
  !cs.isEmpty && cs.all Char.isDigit && (cs.length == 1 || cs.head? != some '0')

def isDigits (cs : List Char) : Bool := !cs.isEmpty && cs.all Char.isDigit

/-- Nothing, or an exponent. -/
def isExponent : List Char → Bool
  | [] => true
  | e :: rest =>
    (e == 'e' || e == 'E') &&
      match rest with
      | '+' :: digits => isDigits digits
      | '-' :: digits => isDigits digits
      | digits => isDigits digits

/-- Nothing, or a fraction or an exponent or both. -/
def isTail : List Char → Bool
  | '.' :: rest => isDigits (rest.takeWhile Char.isDigit) && isExponent (rest.dropWhile Char.isDigit)
  | cs => isExponent cs

/-- A number without a sign: its value if it is an integer, nothing if it is no number. -/
def unsigned? (cs : List Char) : Option (Option Nat) :=
  let whole := cs.takeWhile Char.isDigit
  let tail := cs.dropWhile Char.isDigit
  if isWhole whole && isTail tail then some (if tail.isEmpty then Text.readNat whole else none)
  else none

/-- The value of a negative number that is written as an integer. -/
def negated : Option Nat → Option Int
  | some (n + 1) => some (-(n + 1 : Nat))
  | _ => none

def Value.ofWord? (cs : List Char) : Option Value :=
  if cs = "null".toList then some .null
  else if cs = "true".toList then some (.bool true)
  else if cs = "false".toList then some (.bool false)
  else
    match cs with
    | '-' :: digits => (unsigned? digits).map fun n => .number (negated n)
    | digits => (unsigned? digits).map fun n => .number (n.map Int.ofNat)

/-! ## Texts -/

/-- What a quoted text is written with: characters, and code units of 16 bits. -/
inductive Piece where
  | plain (c : Char)
  | unit (n : Nat)
deriving DecidableEq, Repr

def hexDigit? (c : Char) : Option Nat :=
  if c.isDigit then some (c.toNat - '0'.toNat)
  else if 'a' ≤ c ∧ c ≤ 'f' then some (c.toNat - 'a'.toNat + 10)
  else if 'A' ≤ c ∧ c ≤ 'F' then some (c.toNat - 'A'.toNat + 10)
  else none

def hexValue? (cs : List Char) : Option Nat :=
  cs.foldl (fun acc c => acc.bind fun n => (hexDigit? c).map (16 * n + ·)) (some 0)

/-- The character that a backslash and `c` stand for. -/
def escape? (c : Char) : Option Char :=
  if c = '"' ∨ c = '\\' ∨ c = '/' then some c
  else if c = 'b' then some '\x08'
  else if c = 'f' then some '\x0c'
  else if c = 'n' then some '\n'
  else if c = 'r' then some '\r'
  else if c = 't' then some '\t'
  else none

/-- The pieces of a quoted text, if it is well-formed. -/
def pieces? : List Char → Option (List Piece)
  | [] => some []
  | '\\' :: 'u' :: a :: b :: c :: d :: rest =>
    match hexValue? [a, b, c, d] with
    | some n => (pieces? rest).map (.unit n :: ·)
    | none => none
  | '\\' :: c :: rest =>
    match escape? c with
    | some e => (pieces? rest).map (.plain e :: ·)
    | none => none
  | c :: rest => if c = '\\' ∨ c < ' ' then none else (pieces? rest).map (.plain c :: ·)

/-- The first half of a surrogate pair. -/
def isHighHalf (n : Nat) : Bool := 0xD800 ≤ n && n ≤ 0xDBFF

/-- The second half of a surrogate pair. -/
def isLowHalf (n : Nat) : Bool := 0xDC00 ≤ n && n ≤ 0xDFFF

/-- The text that pieces denote: halves are paired, and none is left alone. -/
def joinPieces : List Piece → Option (List Char)
  | [] => some []
  | .plain c :: rest => (joinPieces rest).map (c :: ·)
  | .unit high :: .unit low :: rest =>
    if isHighHalf high then
      if isLowHalf low then
        (joinPieces rest).map (Char.ofNat (0x10000 + (high - 0xD800) * 0x400 + (low - 0xDC00)) :: ·)
      else none
    else if isLowHalf high then none
    else (joinPieces (.unit low :: rest)).map (Char.ofNat high :: ·)
  | .unit n :: rest =>
    if isHighHalf n || isLowHalf n then none else (joinPieces rest).map (Char.ofNat n :: ·)

/-- The text between quotes: nothing if it is malformed, and otherwise the text if it denotes one. -/
def text? (cs : List Char) : Option (Option String) :=
  (pieces? cs).map fun pieces => (joinPieces pieces).map String.ofList

end WarehouseAdmin.Json
