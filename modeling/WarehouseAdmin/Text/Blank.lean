/-!
# Blank characters and trimming

A character is blank when it has the Unicode property `White_Space`. `trim` drops the blank
characters at both ends of a text and keeps everything between them.
-/

set_option autoImplicit false

namespace WarehouseAdmin.Text

/-- The characters with the property `White_Space`. The zero-width space and the byte-order mark
do not have it. -/
def isBlank (c : Char) : Bool :=
  ('\x09' ≤ c && c ≤ '\x0d') || c == ' ' || c == '\u0085' || c == '\u00a0' || c == '\u1680' ||
    ('\u2000' ≤ c && c ≤ '\u200a') || c == '\u2028' || c == '\u2029' || c == '\u202f' ||
    c == '\u205f' || c == '\u3000'

/-- What is left of `cs` from its first character that is not blank. -/
def trimLeft (cs : List Char) : List Char := cs.dropWhile isBlank

/-- What is left of `cs` up to its last character that is not blank. -/
def trimRight (cs : List Char) : List Char := (trimLeft cs.reverse).reverse

/-- The text without the blank characters at its two ends. -/
def trimChars (cs : List Char) : List Char := trimRight (trimLeft cs)

/-- The text without the blank characters at its two ends. -/
def trim (s : String) : String := String.ofList (trimChars s.toList)

/-- Holds of a text without any character that is not blank. -/
def isBlankText (s : String) : Bool := s.toList.all isBlank

example : trim " \t a b\u3000\n" = "a b" := by decide
example : isBlank '\u200b' = false ∧ isBlank '\ufeff' = false := by decide

end WarehouseAdmin.Text
