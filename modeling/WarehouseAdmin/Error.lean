import WarehouseAdmin.Ident.Error
import WarehouseAdmin.Clause.Spec
import WarehouseAdmin.Row.Basic
import WarehouseAdmin.Time.Span
import WarehouseAdmin.Validation.Failure

/-!
# Errors

`Error` is what every operation fails with. Several errors are joined into one, which then lists
them without nesting: `join` takes joined errors apart again before it puts them together.
-/

set_option autoImplicit false

namespace WarehouseAdmin

/-- What a driver reports: a message, perhaps a code, perhaps the text of an underlying error. -/
structure DriverError where
  text : String
  code : Option String := none
  source : Option String := none
deriving DecidableEq, Repr, Inhabited

/-- The message of a driver error, with its code in parentheses. -/
def DriverError.message (e : DriverError) : String :=
  match e.code with
  | some code => e.text ++ " (" ++ code ++ ")"
  | none => e.text

inductive ErrorKind where
  | invalidIdentifier
  | validation
  | emission
  | objectNotFound
  | notExistOrNotAuthorized
  | notExistOrNotPossible
  | driver
  | scan
  | cancelled
  | timeout
  | joined
deriving DecidableEq, Repr

def ErrorKind.all : List ErrorKind :=
  [.invalidIdentifier, .validation, .emission, .objectNotFound, .notExistOrNotAuthorized,
    .notExistOrNotPossible, .driver, .scan, .cancelled, .timeout, .joined]

def ErrorKind.text : ErrorKind → String
  | .invalidIdentifier => "InvalidIdentifier"
  | .validation => "Validation"
  | .emission => "Emission"
  | .objectNotFound => "ObjectNotFound"
  | .notExistOrNotAuthorized => "ObjectNotExistOrAuthorized"
  | .notExistOrNotPossible => "DoesNotExistOrOperationCannotBePerformed"
  | .driver => "Driver"
  | .scan => "Scan"
  | .cancelled => "Cancelled"
  | .timeout => "Timeout"
  | .joined => "Joined"

/-- What an operation fails with. -/
inductive Error where
  | invalidIdentifier (e : IdentifierError)
  | validation (e : ValidationFailure)
  | emission (e : EmissionError)
  /-- The server knows no object of this name. -/
  | objectNotFound (name : String)
  /-- The object does not exist, or may not be seen. -/
  | notExistOrNotAuthorized (e : DriverError)
  /-- The object does not exist, or does not admit the operation. -/
  | notExistOrNotPossible (e : DriverError)
  | driver (e : DriverError)
  | scan (e : ScanError)
  | cancelled
  | timeout (limit : Time.Span)
  | joined (errors : List Error)
deriving Repr, Inhabited

namespace Error

mutual

/-- The wording of an error; joined errors stand on lines of their own. -/
def message : Error → String
  | .invalidIdentifier e => "invalid identifier: " ++ e.message
  | .validation e => "validation error: " ++ e.message
  | .emission e => "emission error: " ++ e.message
  | .objectNotFound name => "object not found: " ++ name
  | .notExistOrNotAuthorized e => "object does not exist or not authorized: " ++ e.message
  | .notExistOrNotPossible e =>
    "object does not exist, or operation cannot be performed: " ++ e.message
  | .driver e => "driver error: " ++ e.message
  | .scan e => "scan error: " ++ e.message
  | .cancelled => "operation cancelled"
  | .timeout limit => "operation timed out after " ++ limit.text
  | .joined errors => String.intercalate "\n" (messages errors)

def messages : List Error → List String
  | [] => []
  | e :: rest => e.message :: messages rest

end

def kind : Error → ErrorKind
  | .invalidIdentifier _ => .invalidIdentifier
  | .validation _ => .validation
  | .emission _ => .emission
  | .objectNotFound _ => .objectNotFound
  | .notExistOrNotAuthorized _ => .notExistOrNotAuthorized
  | .notExistOrNotPossible _ => .notExistOrNotPossible
  | .driver _ => .driver
  | .scan _ => .scan
  | .cancelled => .cancelled
  | .timeout _ => .timeout
  | .joined _ => .joined

mutual

/-- Says whether the error, or one of those joined in it, is of the kind. -/
def is (k : ErrorKind) : Error → Bool
  | .joined errors => k == .joined || anyIs k errors
  | e => e.kind == k

def anyIs (k : ErrorKind) : List Error → Bool
  | [] => false
  | e :: rest => e.is k || anyIs k rest

end

/-- The errors that are joined in an error; any other error stands for itself. -/
def errors : Error → List Error
  | .joined errors => errors
  | e => [e]

/-- Joins errors into one, if there are any. -/
def join (es : List Error) : Option Error :=
  match es.flatMap errors with
  | [] => none
  | [e] => some e
  | flat => some (.joined flat)

/-- The texts of the errors behind this one. -/
def sources : Error → List String
  | .invalidIdentifier e => [e.message]
  | .validation e => [e.message]
  | .emission e => [e.message]
  | .scan e => [e.message]
  | _ => []

end Error

end WarehouseAdmin
