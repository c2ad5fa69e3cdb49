/-!
# What can be wrong with an identifier

Each constructor is a cause; `message` is the only place that words it.
-/

set_option autoImplicit false

namespace WarehouseAdmin

/-- Why a text is not a well-formed identifier. -/
inductive Malformation where
  | afterClosingQuote
  | noArgumentList
  | unclosedArgumentList
  | emptyArgumentType
  | described (reason : String)
deriving DecidableEq, Repr

def Malformation.text : Malformation → String
  | .afterClosingQuote => "unexpected character after closing quote"
  | .noArgumentList => "missing argument list"
  | .unclosedArgumentList => "argument list is not closed"
  | .emptyArgumentType => "empty argument type"
  | .described reason => reason

/-- Errors about identifiers. `input` is always the text that was being read. -/
inductive IdentifierError where
  | empty
  | emptyPart (input : String) (index : Nat)
  | unbalancedQuotes (input : String)
  | partCount (input : String) (expected found : Nat)
  | malformed (input : String) (cause : Malformation)
  /-- A field of a request holds an empty or partial identifier. -/
  | invalidField (request field : String)
deriving DecidableEq, Repr

def IdentifierError.message : IdentifierError → String
  | .empty => "identifier is empty"
  | .emptyPart input index =>
    "part " ++ toString index ++ " of identifier `" ++ input ++ "` is empty"
  | .unbalancedQuotes input => "unbalanced quotes in identifier `" ++ input ++ "`"
  | .partCount input expected found =>
    "expected " ++ toString expected ++ " identifier parts, found " ++ toString found ++
      " in `" ++ input ++ "`"
  | .malformed input cause => "malformed identifier `" ++ input ++ "`: " ++ cause.text
  | .invalidField request field =>
    request ++ " field `" ++ field ++ "` does not hold a valid identifier"

end WarehouseAdmin
