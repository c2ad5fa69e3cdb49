import WarehouseAdmin.Clause.Value
import WarehouseAdmin.Error

/-!
# Checking requests

A request lists the errors of all rules that it breaks, in the order of the rules. It is valid when
the list is empty; otherwise the errors are joined. Only a valid request is rendered.
-/

set_option autoImplicit false

namespace WarehouseAdmin

/-- Things that are checked before they are sent. -/
class Validate (α : Type) where
  /-- The errors of all broken rules. -/
  failures : α → List Error

/-- Accepts what breaks no rule, or gives all errors in one. -/
def conclude (failures : List Error) : Except Error Unit :=
  match Error.join failures with
  | none => .ok ()
  | some e => .error e

/-- Checks a request against its rules. -/
def validate {α : Type} [Validate α] (a : α) : Except Error Unit := conclude (Validate.failures a)

/-- The errors of a check that was made elsewhere: those of a nested request count as one. -/
def nested (result : Except Error Unit) : List Error :=
  match result with
  | .ok () => []
  | .error e => [e]

def nestedOption {α : Type} [Validate α] : Option α → List Error
  | none => []
  | some a => nested (validate a)

def failIf (failed : Bool) (failure : ValidationFailure) : List Error :=
  if failed then [.validation failure] else []

def validId (valid : Bool) (request field : String) : List Error :=
  if valid then [] else [.invalidIdentifier (.invalidField request field)]

/-- The error of an optional identifier that is there and not valid. -/
def optionalId {α : Type} (id : Option α) (isValid : α → Bool) (request field : String) :
    List Error :=
  validId (id.all isValid) request field

/-- The error of an optional group of properties that is there and holds none. -/
def optionalGroup {α : Type} [Clause α] (group : Option α) (request : String) : List Error :=
  failIf (group.any fun g => !isGiven g) (.noProperty request)

/-! ## Values that are given -/

namespace Given

def count (values : List FieldValue) : Nat := values.countP FieldValue.isSet

def anyGiven (values : List FieldValue) : Bool := values.any FieldValue.isSet

def allGiven (values : List FieldValue) : Bool := values.all FieldValue.isSet

def noneGiven (values : List FieldValue) : Bool := !anyGiven values

def exactlyOne (values : List FieldValue) : Bool := count values == 1

def moreThanOne (values : List FieldValue) : Bool := decide (1 < count values)

end Given

def fieldsNamed (names : List String) (fields : List Field) : List Field :=
  fields.filter fun f => names.contains f.1.name

/-- Fields of which exactly one must be given. -/
def exactlyOneOf (request : String) (names : List String) (fields : List Field) : List Error :=
  failIf (!Given.exactlyOne ((fieldsNamed names fields).map (·.2))) (.exactlyOneOf request names)

/-- The statement of a request, which is checked first. -/
def render {α : Type} [Clause α] [Validate α] (a : α) : Except Error String :=
  match validate a with
  | .error e => .error e
  | .ok () => (toSql a).mapError .emission

end WarehouseAdmin
