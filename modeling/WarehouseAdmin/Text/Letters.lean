/-!
# Letter case

Keywords, column names and constants are compared without regard to the case of the ASCII letters;
every other character stands for itself. Messages of a server are searched under simple case
folding, which on the letters `a` to `z` adds just two characters: the long s and the Kelvin sign.
-/

set_option autoImplicit false

namespace WarehouseAdmin.Text

/-- Replaces the letters `a` to `z` by their capitals and keeps every other character. -/
def upper (s : String) : String := String.ofList (s.toList.map Char.toUpper)

/-- Replaces the letters `A` to `Z` by their small forms and keeps every other character. -/
def lower (s : String) : String := String.ofList (s.toList.map Char.toLower)

def sameLetters (a b : String) : Bool := lower a == lower b

/-- Simple case folding, as far as it leads to an ASCII letter. -/
def foldCase (c : Char) : Char :=
  if c = '\u017f' then 's' else if c = '\u212a' then 'k' else c.toLower

/-- Says whether `needle` occurs in the text as a run of neighbouring characters. -/
def occursIn (needle : List Char) : List Char → Bool
  | [] => needle.isEmpty
  | c :: rest => needle.isPrefixOf (c :: rest) || occursIn needle rest

def contains (text needle : String) : Bool := occursIn needle.toList text.toList

/-- Says whether `phrase`, which is in small letters, occurs in `text` up to simple case folding. -/
def containsFolded (text phrase : String) : Bool :=
  occursIn phrase.toList (text.toList.map foldCase)

example : containsFolded "DOE\u017f NOT" "does not" = true := by decide

end WarehouseAdmin.Text
