import WarehouseAdmin.Text.Number

/-!
# Lexemes of a JSON document

The document is cut into marks, quoted texts and words. A quoted text is kept as it is written,
between its quotes; a word is a longest run of other characters, and what it means is decided later.
A quoted text that is never closed makes the document unreadable.
-/

set_option autoImplicit false

namespace WarehouseAdmin.Json

/-- A piece of a document. -/
inductive Lexeme where
  | openBrace
  | closeBrace
  | openBracket
  | closeBracket
  | comma
  | colon
  | word (cs : List Char)
  | quoted (cs : List Char)
deriving DecidableEq, Repr

def mark? (c : Char) : Option Lexeme :=
  if c = '{' then some .openBrace
  else if c = '}' then some .closeBrace
  else if c = '[' then some .openBracket
  else if c = ']' then some .closeBracket
  else if c = ',' then some .comma
  else if c = ':' then some .colon
  else none

/-- The characters that may stand between lexemes. -/
def isSpace (c : Char) : Bool := c == ' ' || c == '\t' || c == '\n' || c == '\r'

/-- Where in the document a character stands. What was read of the current lexeme is kept backwards;
an empty word is none. -/
inductive Place where
  | outside (word : List Char)
  | inside (text : List Char)
  /-- Behind a backslash in a quoted text. -/
  | escaped (text : List Char)

/-- The word that ends here, if there is one. -/
def endWord (word : List Char) : List Lexeme :=
  if word.isEmpty then [] else [.word word.reverse]

/-- The lexemes of the rest of a document. -/
def lexemesFrom : Place → List Char → Option (List Lexeme)
  | .outside word, [] => some (endWord word)
  | .outside word, c :: rest =>
    if isSpace c then (lexemesFrom (.outside []) rest).map (endWord word ++ ·)
    else if c = '"' then (lexemesFrom (.inside []) rest).map (endWord word ++ ·)
    else
      match mark? c with
      | some mark => (lexemesFrom (.outside []) rest).map (endWord word ++ mark :: ·)
      | none => lexemesFrom (.outside (c :: word)) rest
  | .inside text, c :: rest =>
    if c = '"' then (lexemesFrom (.outside []) rest).map (.quoted text.reverse :: ·)
    else if c = '\\' then lexemesFrom (.escaped (c :: text)) rest
    else lexemesFrom (.inside (c :: text)) rest
  | .escaped text, c :: rest => lexemesFrom (.inside (c :: text)) rest
  | .inside _, [] => none
  | .escaped _, [] => none

def lexemes (document : String) : Option (List Lexeme) :=
  lexemesFrom (.outside []) document.toList

end WarehouseAdmin.Json
