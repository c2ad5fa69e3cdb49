import WarehouseAdmin.Text.Quoted
import WarehouseAdmin.Ident.Parts
import WarehouseAdmin.Ident.Arguments

/-!
# Identifiers

Objects live in an account, in a database or in a schema, and functions are told apart by their
argument types as well. An identifier keeps its parts without quotes; its qualified name quotes
every part, so that it reads back to an equal identifier.
-/

set_option autoImplicit false

namespace WarehouseAdmin

/-- Names an object of the account, such as a warehouse or a database. -/
structure AccountObjectId where
  name : String := ""
deriving DecidableEq, Repr, Inhabited

/-- Names an object of a database, such as a schema. -/
structure DatabaseObjectId where
  database : String := ""
  name : String := ""
deriving DecidableEq, Repr, Inhabited

/-- Names an object of a schema, such as an alert or a tag. -/
structure SchemaObjectId where
  database : String := ""
  schema : String := ""
  name : String := ""
deriving DecidableEq, Repr, Inhabited

/-- Names a function: an object of a schema together with its argument types. -/
structure FunctionId where
  object : SchemaObjectId := {}
  arguments : List String := []
deriving DecidableEq, Repr, Inhabited

inductive Identifier where
  | account (id : AccountObjectId)
  | database (id : DatabaseObjectId)
  | schema (id : SchemaObjectId)
  | function (id : FunctionId)
deriving DecidableEq, Repr

inductive Ancestor where
  | schema (id : DatabaseObjectId)
  | database (id : AccountObjectId)
deriving DecidableEq, Repr

/-- The parts, each quoted, with points between them. -/
def qualify (parts : List String) : String := String.intercalate "." (parts.map Text.doubleQuoted)

namespace AccountObjectId

/-- The parts of the identifier, outermost first. -/
def parts (id : AccountObjectId) : List String := [id.name]

def qualifiedName (id : AccountObjectId) : String := qualify id.parts

/-- An identifier is valid when none of its parts is empty. -/
def isValid (id : AccountObjectId) : Bool := id.name != ""

end AccountObjectId

namespace DatabaseObjectId

/-- The parts of the identifier, outermost first. -/
def parts (id : DatabaseObjectId) : List String := [id.database, id.name]

def qualifiedName (id : DatabaseObjectId) : String := qualify id.parts

/-- An identifier is valid when none of its parts is empty. -/
def isValid (id : DatabaseObjectId) : Bool := id.database != "" && id.name != ""

def databaseId (id : DatabaseObjectId) : AccountObjectId := ⟨id.database⟩

end DatabaseObjectId

namespace SchemaObjectId

/-- The parts of the identifier, outermost first. -/
def parts (id : SchemaObjectId) : List String := [id.database, id.schema, id.name]

def qualifiedName (id : SchemaObjectId) : String := qualify id.parts

/-- An identifier is valid when none of its parts is empty. -/
def isValid (id : SchemaObjectId) : Bool := id.database != "" && id.schema != "" && id.name != ""

def databaseId (id : SchemaObjectId) : AccountObjectId := ⟨id.database⟩

def schemaId (id : SchemaObjectId) : DatabaseObjectId := ⟨id.database, id.schema⟩

end SchemaObjectId

namespace FunctionId

def qualifiedName (id : FunctionId) : String :=
  id.object.qualifiedName ++ "(" ++ String.intercalate ", " id.arguments ++ ")"

/-- A function's identifier needs proper argument types besides its parts. -/
def isValid (id : FunctionId) : Bool :=
  id.object.isValid && id.arguments.all Arguments.isArgumentType

end FunctionId

def Ancestor.qualifiedName : Ancestor → String
  | .schema id => id.qualifiedName
  | .database id => id.qualifiedName

namespace Identifier

/-- The innermost part. -/
def name : Identifier → String
  | .account id => id.name
  | .database id => id.name
  | .schema id => id.name
  | .function id => id.object.name

def qualifiedName : Identifier → String
  | .account id => id.qualifiedName
  | .database id => id.qualifiedName
  | .schema id => id.qualifiedName
  | .function id => id.qualifiedName

def isValid : Identifier → Bool
  | .account id => id.isValid
  | .database id => id.isValid
  | .schema id => id.isValid
  | .function id => id.isValid

/-- The parts of the identifier, outermost first, without argument types. -/
def parts : Identifier → List String
  | .account id => id.parts
  | .database id => id.parts
  | .schema id => id.parts
  | .function id => id.object.parts

/-- The argument types; only functions have any. -/
def arguments : Identifier → List String
  | .function id => id.arguments
  | _ => []

/-- What contains the object, innermost first. -/
def ancestors : Identifier → List Ancestor
  | .account _ => []
  | .database id => [.database id.databaseId]
  | .schema id => [.schema id.schemaId, .database id.databaseId]
  | .function id => [.schema id.object.schemaId, .database id.object.databaseId]

end Identifier

/-- Texts are compared by their code points, lists of texts by their first difference. -/
def compareTexts : List String → List String → Ordering
  | [], [] => .eq
  | [], _ :: _ => .lt
  | _ :: _, [] => .gt
  | a :: as, b :: bs => (compare a b).then (compareTexts as bs)

/-- The order of identifiers of one level: by their parts, and then by their argument types. -/
def Identifier.order (a b : Identifier) : Ordering :=
  (compareTexts a.parts b.parts).then (compareTexts a.arguments b.arguments)

/-- Sorts identifiers of one level; equal ones keep their places. -/
def Identifier.sort (ids : List Identifier) : List Identifier :=
  ids.mergeSort fun a b => (a.order b).isLE

end WarehouseAdmin
