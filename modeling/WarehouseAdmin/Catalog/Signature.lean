import WarehouseAdmin.Ident.Arguments

/-!
# Signatures of functions

A server shows a function's signature as `NAME(T1, T2) RETURN R`. The argument list is the shortest
balanced group of parentheses that starts at the first opening one; a text without such a group has
no arguments and no return type.
-/

set_option autoImplicit false

namespace WarehouseAdmin

/-- What a signature says: the argument types, and the return type if there is one. -/
structure Signature where
  arguments : List String := []
  returns : Option String := none
deriving DecidableEq, Repr, Inhabited

namespace Signature

/-- Cuts the text at the parenthesis that closes a group in which `depth` further groups are open:
what is inside, and what follows. -/
def cutAtClosing (depth : Nat) : List Char → Option (List Char × List Char)
  | [] => none
  | c :: rest =>
    if c = ')' ∧ depth = 0 then some ([], rest)
    else
      (cutAtClosing (Arguments.depthAfter depth c) rest).map fun (inside, after) =>
        (c :: inside, after)

/-- The first group of parentheses: what is inside, and what follows. -/
def group? : List Char → Option (List Char × List Char)
  | [] => none
  | c :: rest => if c = '(' then cutAtClosing 0 rest else group? rest

/-- The text after `word`, if the text begins with it. -/
def after? : List Char → List Char → Option (List Char)
  | [], cs => some cs
  | _ :: _, [] => none
  | w :: word, c :: cs => if w = c then after? word cs else none

/-- The return type named by what follows the arguments. -/
def returns? (cs : List Char) : Option (List Char) :=
  ((after? "RETURN".toList (Text.trimChars cs)).map Text.trimChars).filter (· ≠ [])

def read (s : String) : Signature :=
  match group? s.toList with
  | none => {}
  | some (inside, after) =>
    { arguments := Arguments.split (String.ofList inside)
      returns := (returns? after).map String.ofList }

example : read "ADD(NUMBER(38, 0), VARCHAR) RETURN NUMBER(38, 0)" =
    ⟨["NUMBER(38, 0)", "VARCHAR"], some "NUMBER(38, 0)"⟩ := by decide +kernel

end Signature

end WarehouseAdmin
