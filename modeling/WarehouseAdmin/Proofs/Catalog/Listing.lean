import WarehouseAdmin.Proofs.Request.Lookup
import WarehouseAdmin.Proofs.Text.Pattern

/-!
# What a listing asks for

This is the server's side of a listing. The server reads the statement, and a `Listing` is what it
finds in it: of what kind the objects are, which pattern their names are like, and the parts of the
container in which they are. A listing covers an object by these two alone: the parts of the
container are the first of the object's own, letter by letter, and its name is like the pattern.

Nothing here knows of requests. `read?_lookUp` joins the two sides: the listing that the server finds
in the statement of a look-up has the very name and the very container of the object that is looked
up. Therefore it covers the object (`covers_forId`), and perhaps others.
-/

set_option autoImplicit false

namespace WarehouseAdmin

open Text

/-- What a statement that lists objects asks for. -/
structure Listing where
  /-- The kind of objects, as a keyword. -/
  kind : String
  /-- The pattern that names are like, if there is one. -/
  pattern : Option String := none
  /-- The parts of the container; the account has none. -/
  place : List String := []
deriving DecidableEq, Repr

namespace Listing

/-! ## Reading -/

/-- The parts of the container that the words name. -/
def place? : List Word → Option (List String)
  | [] => some []
  | [.keyword "IN", .keyword "ACCOUNT"] => some []
  | [.keyword "IN", .keyword "DATABASE", .name [database]] => some [database]
  | [.keyword "IN", .keyword "SCHEMA", .name [database, schema]] => some [database, schema]
  | _ => none

/-- The listing that the words ask for. -/
def ofWords? : List Word → Option Listing
  | .keyword "SHOW" :: .keyword kind :: .keyword "LIKE" :: .constant pattern :: rest =>
    (place? rest).map fun place => ⟨kind, some pattern, place⟩
  | .keyword "SHOW" :: .keyword kind :: rest => (place? rest).map fun place => ⟨kind, none, place⟩
  | _ => none

/-- The listing that a statement asks for, unless the statement is of another form. -/
def read? (statement : String) : Option Listing := (Word.words? statement).bind ofWords?

example : read? "SHOW SCHEMAS LIKE 'it''s' IN DATABASE \"a \"\"b\"\"\"" =
    some ⟨"SCHEMAS", some "it's", ["a \"b\""]⟩ := by decide +kernel

/-! ## What a listing covers -/

/-- Says whether the listing covers an object, where `fold` is how the server compares letters. -/
def covers (fold : Char → Char) (l : Listing) (id : Identifier) : Bool :=
  l.place.isPrefixOf id.parts && l.pattern.all fun p => isLike fold p.toList id.name.toList

/-- The listing that looks for an object. -/
def forId (kind : String) (id : Identifier) : Listing :=
  ⟨kind, some id.name, id.ancestors.head?.toList.flatMap Ancestor.parts⟩

end Listing

end WarehouseAdmin
