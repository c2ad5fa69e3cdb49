/-!
# How a field is emitted

A statement is described field by field. A `FieldSpec` says what a field's value contributes: its
kind, the literal that precedes the value, and modifiers. `FieldSpec.check` finds the specs that
contradict themselves; the order of its questions decides which of two faults is reported.
-/

set_option autoImplicit false

namespace WarehouseAdmin

/-- The quotes put around a text value. -/
inductive Quotes where
  | none
  | single
  | double
deriving DecidableEq, Repr, Inhabited

inductive FieldKind where
  /-- Always emits its literal, whatever its value. -/
  | static
  /-- Emits its literal if it is a set flag, else the literal and the value. -/
  | keyword
  /-- Emits the qualified name of an object, or a list of them. -/
  | identifier
  /-- Emits its literal, an equals sign and the value. -/
  | parameter
  /-- Emits the elements of a sequence. -/
  | list
deriving DecidableEq, Repr, Inhabited

/-- The name of a kind in messages. -/
def FieldKind.text : FieldKind → String
  | .static => "Static"
  | .keyword => "Keyword"
  | .identifier => "Identifier"
  | .parameter => "Parameter"
  | .list => "List"

/-- Changes to what the kind alone would emit. -/
structure Modifiers where
  /-- Write an equals sign between the literal and an identifier. -/
  equals : Bool := false
  /-- Write no equals sign after the literal of a parameter. -/
  noEquals : Bool := false
  quotes : Quotes := .none
  /-- Put the value in parentheses. -/
  parentheses : Bool := false
  /-- Put the value in parentheses, also when it is empty. -/
  mustParentheses : Bool := false
  /-- Never put the value in parentheses. -/
  noParentheses : Bool := false
  /-- Separate the elements of a list by blanks only. -/
  noComma : Bool := false
  /-- The identifier must be set. -/
  required : Bool := false
deriving DecidableEq, Repr, Inhabited

/-- The description of one field; the name is for messages. -/
structure FieldSpec where
  name : String
  kind : FieldKind
  literal : Option String := none
  modifiers : Modifiers := {}
deriving DecidableEq, Repr, Inhabited

/-- How the modifiers of a field contradict each other or its kind. -/
inductive Contradiction where
  | equalsAndNoEquals
  | parenthesesAndNone
  | equalsWithoutIdentifier
  | mustParenthesesElsewhere
  | requiredElsewhere
  | described (reason : String)
deriving DecidableEq, Repr

def Contradiction.text : Contradiction → String
  | .equalsAndNoEquals => "`equals` and `no_equals` are both set"
  | .parenthesesAndNone => "`no_parentheses` conflicts with `parentheses`"
  | .equalsWithoutIdentifier => "`equals` needs an identifier field with a literal"
  | .mustParenthesesElsewhere => "`must_parentheses` only applies to parameters and lists"
  | .requiredElsewhere => "`required` only applies to identifier fields"
  | .described reason => reason

/-- Why a value does not fit its field. -/
inductive Misfit where
  | notIdentifiers
  | notIdentifier
  | notSequence
  | notScalar
  | unsetElement
  | nestedList
  | described (reason : String)
deriving DecidableEq, Repr

def Misfit.text : Misfit → String
  | .notIdentifiers => "identifier lists hold only identifiers"
  | .notIdentifier => "identifier slots hold only identifiers"
  | .notSequence => "list fields hold sequences"
  | .notScalar => "value is not a scalar"
  | .unsetElement => "list element is unset"
  | .nestedList => "nested lists cannot be emitted"
  | .described reason => reason

/-- Errors met while a statement is emitted. -/
inductive EmissionError where
  | missingLiteral (field : String) (kind : FieldKind)
  | missingIdentifier (field : String)
  | notEmittable (field : String) (kind : FieldKind) (cause : Misfit)
  | inconsistent (field : String) (cause : Contradiction)
deriving DecidableEq, Repr

def EmissionError.message : EmissionError → String
  | .missingLiteral field kind =>
    "field `" ++ field ++ "` of kind " ++ kind.text ++ " has no SQL literal"
  | .missingIdentifier field => "required identifier field `" ++ field ++ "` is not set"
  | .notEmittable field kind cause =>
    "field `" ++ field ++ "` cannot be emitted as " ++ kind.text ++ ": " ++ cause.text
  | .inconsistent field cause =>
    "field `" ++ field ++ "` has inconsistent metadata: " ++ cause.text

namespace FieldSpec

/-- The error of a field that needs a literal and has none. -/
def lackingLiteral (spec : FieldSpec) : EmissionError := .missingLiteral spec.name spec.kind

/-- The first fault of the spec, if it has any. -/
def fault? (spec : FieldSpec) : Option EmissionError :=
  let m := spec.modifiers
  if (spec.kind = .static ∨ spec.kind = .parameter) ∧ spec.literal = none then
    some spec.lackingLiteral
  else if m.equals ∧ m.noEquals then some (.inconsistent spec.name .equalsAndNoEquals)
  else if m.noParentheses ∧ (m.parentheses ∨ m.mustParentheses) then
    some (.inconsistent spec.name .parenthesesAndNone)
  else if m.equals ∧ (spec.kind ≠ .identifier ∨ spec.literal = none) then
    some (.inconsistent spec.name .equalsWithoutIdentifier)
  else if m.mustParentheses ∧ spec.kind ≠ .parameter ∧ spec.kind ≠ .list then
    some (.inconsistent spec.name .mustParenthesesElsewhere)
  else if m.required ∧ spec.kind ≠ .identifier then
    some (.inconsistent spec.name .requiredElsewhere)
  else none

def check (spec : FieldSpec) : Except EmissionError Unit :=
  match spec.fault? with
  | some e => .error e
  | none => .ok ()

def wraps (spec : FieldSpec) : Bool :=
  (spec.modifiers.parentheses || spec.modifiers.mustParentheses) && !spec.modifiers.noParentheses

/-- The text in parentheses, if the spec asks for them. -/
def wrap (spec : FieldSpec) (body : String) : String :=
  if spec.wraps then "(" ++ body ++ ")" else body

def separator (spec : FieldSpec) : String := if spec.modifiers.noComma then " " else ", "

def misfit (spec : FieldSpec) (cause : Misfit) : EmissionError :=
  .notEmittable spec.name spec.kind cause

end FieldSpec

end WarehouseAdmin
