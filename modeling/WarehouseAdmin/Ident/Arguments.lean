import WarehouseAdmin.Text.Blank

/-!
# Lists of argument types

Argument types are separated by commas. A comma inside parentheses belongs to a type, as in
`NUMBER(38, 0)`; a closing parenthesis without an opening one does not count. The types are trimmed.
-/

set_option autoImplicit false

namespace WarehouseAdmin.Arguments

/-- The nesting depth after the character `c`; it never falls below zero. -/
def depthAfter (depth : Nat) (c : Char) : Nat :=
  if c = '(' then depth + 1 else if c = ')' then depth - 1 else depth

/-- The pieces between the commas at depth zero, at least one. -/
def pieces (depth : Nat) : List Char → List (List Char)
  | [] => [[]]
  | c :: rest =>
    if c = ',' ∧ depth = 0 then [] :: pieces 0 rest
    else
      match pieces (depthAfter depth c) rest with
      | [] => [[c]]
      | piece :: more => (c :: piece) :: more

/-- The trimmed pieces; a blank text without a comma has none. -/
def splitChars (cs : List Char) : List (List Char) :=
  match (pieces 0 cs).map Text.trimChars with
  | [[]] => []
  | items => items

/-- Splits a list of argument types at its commas. -/
def split (s : String) : List String := (splitChars s.toList).map String.ofList

/-- Says whether the text is one argument type: trimmed, not empty, and without a comma at depth
zero. -/
def isArgumentType (s : String) : Bool :=
  s != "" && Text.trim s == s && (split s).length == 1

example : split "NUMBER(38, 0), VARCHAR" = ["NUMBER(38, 0)", "VARCHAR"] := by decide
example : split " " = [] ∧ split "," = ["", ""] := by decide

end WarehouseAdmin.Arguments
