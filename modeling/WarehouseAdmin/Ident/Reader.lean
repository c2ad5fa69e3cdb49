import WarehouseAdmin.Ident.Basic

/-!
# Reading identifiers

Each level wants its own number of parts. A function's identifier is that of an object of a schema
followed by its argument types in parentheses.
-/

set_option autoImplicit false

namespace WarehouseAdmin

/-- Reads the name of an object of the account. -/
def AccountObjectId.read (input : String) : Except IdentifierError AccountObjectId :=
  match Parts.read input with
  | .error e => .error e
  | .ok [name] => .ok ⟨name⟩
  | .ok parts => .error (.partCount input 1 parts.length)

def DatabaseObjectId.read (input : String) : Except IdentifierError DatabaseObjectId :=
  match Parts.read input with
  | .error e => .error e
  | .ok [database, name] => .ok ⟨database, name⟩
  | .ok parts => .error (.partCount input 2 parts.length)

def SchemaObjectId.read (input : String) : Except IdentifierError SchemaObjectId :=
  match Parts.read input with
  | .error e => .error e
  | .ok [database, schema, name] => .ok ⟨database, schema, name⟩
  | .ok parts => .error (.partCount input 3 parts.length)

/-- Cuts the text at its first opening parenthesis outside quotes, which is dropped. -/
def cutAtArguments (quoted : Bool) : List Char → Option (List Char × List Char)
  | [] => none
  | c :: rest =>
    if c = '(' ∧ quoted = false then some ([], rest)
    else (cutAtArguments (if c = '"' then !quoted else quoted) rest).map fun (before, after) =>
      (c :: before, after)

/-- Drops a closing parenthesis at the end of the text. -/
def withoutClosing (cs : List Char) : Option (List Char) :=
  if cs.getLast? = some ')' then some cs.dropLast else none

/-- Reads the name of a function with its argument types. -/
def FunctionId.read (input : String) : Except IdentifierError FunctionId :=
  match cutAtArguments false input.toList with
  | none => .error (.malformed input .noArgumentList)
  | some (before, after) =>
    match withoutClosing after with
    | none => .error (.malformed input .unclosedArgumentList)
    | some list =>
      match SchemaObjectId.read (String.ofList before) with
      | .error e => .error e
      | .ok object =>
        let arguments := Arguments.split (String.ofList list)
        if arguments.any (· == "") then .error (.malformed input .emptyArgumentType)
        else .ok ⟨object, arguments⟩

/-- The levels at which objects live; functions are told apart from other objects of a schema. -/
inductive Level where
  | account
  | database
  | schema
  | function
deriving DecidableEq, Repr

def Identifier.read (level : Level) (input : String) : Except IdentifierError Identifier :=
  match level with
  | .account => (AccountObjectId.read input).map .account
  | .database => (DatabaseObjectId.read input).map .database
  | .schema => (SchemaObjectId.read input).map .schema
  | .function => (FunctionId.read input).map .function

def Identifier.level : Identifier → Level
  | .account _ => .account
  | .database _ => .database
  | .schema _ => .schema
  | .function _ => .function

end WarehouseAdmin
