import WarehouseAdmin.Ident.Basic
import WarehouseAdmin.Clause.Fragment

/-!
# The values of fields

A `FieldValue` is what a field of a request can hold. A clause is a list of fields of its own, so a
statement is described by the same type as its parts. `isSet` says whether a value counts as given;
`toFragment` brings it into the form in which its field is emitted; and `writeFields` emits the
fields of a clause in order, up to the first that fails.
-/

set_option autoImplicit false

namespace WarehouseAdmin

inductive FieldValue where
  | unit
  | flag (b : Bool)
  | int (n : Int)
  | float (x : Float)
  | text (s : String)
  | identifier (id : Identifier)
  /-- A constant, by its spelling in statements. -/
  | constant (sql : String)
  | absent
  | present (v : FieldValue)
  | many (vs : List FieldValue)
  | clause (fields : List (FieldSpec × FieldValue))
  /-- A value that already is in the form in which it is emitted. -/
  | fragment (f : Fragment)

/-- A field: how it is emitted, and what it holds. -/
abbrev Field := FieldSpec × FieldValue

def onlyStatic (fields : List Field) : Bool := fields.all fun f => f.1.kind == .static

namespace FieldValue

mutual

/-- Says whether the value counts as given. An optional value is given when it is there, whatever
it holds; a clause when one of its fields is, those that always emit the same aside, or when it has
no others. -/
def isSet : FieldValue → Bool
  | .unit => false
  | .flag b => b
  | .int _ => true
  | .float _ => true
  | .text s => s != ""
  | .identifier id => id.isValid
  | .constant _ => true
  | .absent => false
  | .present _ => true
  | .many vs => !vs.isEmpty
  | .clause fields => onlyStatic fields || anySet fields
  | .fragment f => f.isSet

/-- Says whether a field that is not static holds a given value. -/
def anySet : List Field → Bool
  | [] => false
  | (spec, v) :: rest => (spec.kind != .static && v.isSet) || anySet rest

end

mutual

/-- The form in which the value is emitted. -/
def toFragment : FieldValue → Except EmissionError Fragment
  | .unit => .ok .unset
  | .flag b => .ok (.flag b)
  | .int n => .ok (.int n)
  | .float x => .ok (.float x)
  | .text s => .ok (if s = "" then .unset else .text s)
  | .identifier id => .ok (if id.isValid then .identifier id.qualifiedName else .unset)
  | .constant sql => .ok (.text sql)
  | .absent => .ok .unset
  | .present v => v.toFragment
  | .many vs => (toFragments vs).map .list
  | .clause fields =>
    if isSet (.clause fields) then (writeFields fields).result.map .clause else .ok .unset
  | .fragment f => .ok f

/-- The forms of the elements, or the error of the first that has none. -/
def toFragments : List FieldValue → Except EmissionError (List Fragment)
  | [] => .ok []
  | v :: rest =>
    match v.toFragment with
    | .error e => .error e
    | .ok f => (toFragments rest).map (f :: ·)

/-- Emits the fields in order, up to the first that fails. -/
def writeFields : List Field → Emission
  | [] => .nothing
  | (spec, v) :: rest =>
    let first := spec.emit v.toFragment
    match first.failure with
    | some _ => first
    | none =>
      let others := writeFields rest
      ⟨first.tokens ++ others.tokens, others.failure⟩

end

end FieldValue

def statement (tokens : List String) : String := String.intercalate " " tokens

class ToFieldValue (α : Type) where
  toFieldValue : α → FieldValue

/-- Things that are described field by field. -/
class Clause (α : Type) where
  /-- The fields, in the order in which they are emitted. -/
  fields : α → List Field

export ToFieldValue (toFieldValue)

instance : ToFieldValue Bool := ⟨.flag⟩

instance : ToFieldValue Int := ⟨.int⟩

instance : ToFieldValue Float := ⟨.float⟩

instance : ToFieldValue String := ⟨.text⟩

instance : ToFieldValue AccountObjectId := ⟨fun id => .identifier (.account id)⟩

instance : ToFieldValue DatabaseObjectId := ⟨fun id => .identifier (.database id)⟩

instance : ToFieldValue SchemaObjectId := ⟨fun id => .identifier (.schema id)⟩

instance : ToFieldValue FunctionId := ⟨fun id => .identifier (.function id)⟩

instance {α : Type} [ToFieldValue α] : ToFieldValue (Option α) :=
  ⟨fun
    | none => .absent
    | some a => .present (toFieldValue a)⟩

instance {α : Type} [ToFieldValue α] : ToFieldValue (List α) :=
  ⟨fun as => .many (as.map toFieldValue)⟩

instance {α : Type} [Clause α] : ToFieldValue α := ⟨fun a => .clause (Clause.fields a)⟩

/-- Emits a clause as a statement of its own, without asking whether it is valid. -/
def toSql {α : Type} [Clause α] (a : α) : Except EmissionError String :=
  (FieldValue.writeFields (Clause.fields a)).result.map statement

def isGiven {α : Type} [ToFieldValue α] (a : α) : Bool := (toFieldValue a).isSet

namespace Modifiers

def singleQuotes : Modifiers := { quotes := .single }

def doubleQuotes : Modifiers := { quotes := .double }

def inParentheses : Modifiers := { parentheses := true }

def bare : Modifiers := { noParentheses := true }

end Modifiers

namespace Field

/-- A field that always emits `literal`. -/
def fixed (name literal : String) : Field := (⟨name, .static, some literal, {}⟩, .unit)

/-- A keyword with its literal, if it has one. -/
def keyword {α : Type} [ToFieldValue α] (name : String) (literal : Option String) (a : α)
    (modifiers : Modifiers := {}) : Field :=
  (⟨name, .keyword, literal, modifiers⟩, toFieldValue a)

def parameter {α : Type} [ToFieldValue α] (name literal : String) (a : α)
    (modifiers : Modifiers := {}) : Field :=
  (⟨name, .parameter, some literal, modifiers⟩, toFieldValue a)

def identifier {α : Type} [ToFieldValue α] (name : String) (literal : Option String) (a : α)
    (modifiers : Modifiers := {}) : Field :=
  (⟨name, .identifier, literal, modifiers⟩, toFieldValue a)

def required {α : Type} [ToFieldValue α] (name : String) (literal : Option String) (a : α)
    (modifiers : Modifiers := {}) : Field :=
  identifier name literal a { modifiers with required := true }

def list {α : Type} [ToFieldValue α] (name : String) (literal : Option String) (a : α)
    (modifiers : Modifiers := {}) : Field :=
  (⟨name, .list, literal, modifiers⟩, toFieldValue a)

end Field

end WarehouseAdmin
