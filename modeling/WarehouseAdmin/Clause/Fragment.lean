import WarehouseAdmin.Text.Blank
import WarehouseAdmin.Text.Quoted
import WarehouseAdmin.Decimal.Positional
import WarehouseAdmin.Clause.Spec

/-!
# From a field to its tokens

A value reaches its field as a `Fragment`, and `emit` says which tokens the field adds to the
statement. Tokens are trimmed, and blank ones are dropped. A field can fail after it has added its
literal, so an emission is the tokens added together with the failure, if there was one.
-/

set_option autoImplicit false

namespace WarehouseAdmin

/-- What a value has come to when its field is emitted. -/
inductive Fragment where
  | unset
  | flag (b : Bool)
  | int (n : Int)
  | float (x : Float)
  | text (s : String)
  | identifier (name : String)
  | clause (tokens : List String)
  | list (items : List Fragment)
deriving Repr, Inhabited

namespace Fragment

/-- Says whether there is something to emit. -/
def isSet : Fragment → Bool
  | .unset => false
  | .text s => s != ""
  | .clause tokens => !tokens.isEmpty
  | .list items => !items.isEmpty
  | _ => true

/-- The text of a single value; clauses, lists and unset values have none. -/
def scalar? (quotes : Quotes) : Fragment → Option String
  | .flag true => some "TRUE"
  | .flag false => some "FALSE"
  | .int n => some (toString n)
  | .float x => some (Decimal.ofFloat x)
  | .text s =>
    match quotes with
    | .none => some s
    | .single => some (Text.singleQuoted s)
    | .double => some (Text.doubleQuoted s)
  | .identifier name => some name
  | .unset | .clause _ | .list _ => none

def isIdentifier : Fragment → Bool
  | .identifier _ => true
  | _ => false

end Fragment

/-- The tokens as they enter a statement: trimmed, without the blank ones. -/
def tidyTokens (tokens : List String) : List String := (tokens.map Text.trim).filter (· != "")

/-- What a field adds to a statement, and why it stopped, if it did not finish. -/
structure Emission where
  tokens : List String
  failure : Option EmissionError := none
deriving Repr, DecidableEq, Inhabited

namespace Emission

def nothing : Emission := ⟨[], none⟩

def of (tokens : List String) : Emission := ⟨tidyTokens tokens, none⟩

/-- Nothing is added, and the field fails. -/
def fail (e : EmissionError) : Emission := ⟨[], some e⟩

def result (e : Emission) : Except EmissionError (List String) :=
  match e.failure with
  | some failure => .error failure
  | none => .ok e.tokens

end Emission

namespace FieldSpec

def scalarText (spec : FieldSpec) (f : Fragment) : Except EmissionError String :=
  match f.scalar? spec.modifiers.quotes with
  | some text => .ok text
  | none => .error (spec.misfit .notScalar)

/-- The text of one element of a list; an empty clause has none. -/
def elementText (spec : FieldSpec) : Fragment → Except EmissionError (Option String)
  | .unset => .error (spec.misfit .unsetElement)
  | .list _ => .error (spec.misfit .nestedList)
  | .clause [] => .ok none
  | .clause tokens => .ok (some (String.intercalate " " tokens))
  | f => (spec.scalarText f).map some

/-- The texts of the elements of a list, up to the first that has none to give. -/
def elementTexts (spec : FieldSpec) : List Fragment → Except EmissionError (List String)
  | [] => .ok []
  | f :: rest =>
    match spec.elementText f with
    | .error e => .error e
    | .ok text => (spec.elementTexts rest).map (text.toList ++ ·)

def listText (spec : FieldSpec) (items : List Fragment) : Except EmissionError String :=
  (spec.elementTexts items).map (String.intercalate spec.separator)

/-- The text of a value that is a clause, a list or a single value. -/
def valueText (spec : FieldSpec) : Fragment → Except EmissionError String
  | .clause tokens => .ok (String.intercalate " " tokens)
  | .list items => spec.listText items
  | f => spec.scalarText f

/-- Adds the tokens `before` and then the value in the parentheses that the spec asks for. -/
def emitValue (spec : FieldSpec) (before : List String) (value : Except EmissionError String) :
    Emission :=
  match value with
  | .error e => .fail e
  | .ok text => .of (before ++ [spec.wrap text])

/-- A keyword emits its literal if it is a flag that holds, else its literal and its value. -/
def emitKeyword (spec : FieldSpec) (f : Fragment) : Emission :=
  if f.isSet then
    match f with
    | .flag b =>
      match spec.literal with
      | none => .fail spec.lackingLiteral
      | some literal => if b then .of [literal] else .nothing
    | f => spec.emitValue spec.literal.toList (spec.valueText f)
  else .nothing

def identifierLead (spec : FieldSpec) : List String :=
  match spec.literal with
  | none => []
  | some literal => if spec.modifiers.equals then [literal, "="] else [literal]

/-- An identifier field emits a name as it stands, and a list of names in parentheses if asked. -/
def emitIdentifier (spec : FieldSpec) : Fragment → Emission
  | .unset =>
    if spec.modifiers.required then .fail (.missingIdentifier spec.name) else .nothing
  | .identifier name => .of (spec.identifierLead ++ [name])
  | .list [] => .nothing
  | .list items =>
    if items.all Fragment.isIdentifier then
      spec.emitValue spec.identifierLead (spec.listText items)
    else .fail (spec.misfit .notIdentifiers)
  | _ => .fail (spec.misfit .notIdentifier)

def parameterLead (spec : FieldSpec) (literal : String) : List String :=
  if spec.modifiers.noEquals then [literal] else [literal, "="]

/-- Says whether a parameter has nothing to emit: an empty clause or list counts as something where
parentheses are a must. -/
def parameterSkips (spec : FieldSpec) (f : Fragment) : Bool :=
  match f with
  | .clause _ | .list _ => !f.isSet && !spec.modifiers.mustParentheses
  | f => !f.isSet

/-- A parameter emits its literal, an equals sign and its value. -/
def emitParameter (spec : FieldSpec) (f : Fragment) : Emission :=
  match spec.literal with
  | none => .fail spec.lackingLiteral
  | some literal =>
    if spec.parameterSkips f then .nothing
    else spec.emitValue (spec.parameterLead literal) (spec.valueText f)

/-- A list field adds its literal first and its elements then; if an element cannot be emitted, the
literal stays. -/
def emitItems (spec : FieldSpec) (items : List Fragment) : Emission :=
  if items.isEmpty && !spec.modifiers.mustParentheses then .nothing
  else
    match spec.listText items with
    | .error e => ⟨tidyTokens spec.literal.toList, some e⟩
    | .ok text => .of (spec.literal.toList ++ [spec.wrap text])

/-- A list field emits a sequence; an unset value is the empty one. -/
def emitList (spec : FieldSpec) : Fragment → Emission
  | .unset => spec.emitItems []
  | .list items => spec.emitItems items
  | _ => .fail (spec.misfit .notSequence)

/-- What a field adds when its value has come to `value`. A faulty spec fails first; a static field
never looks at its value. -/
def emit (spec : FieldSpec) (value : Except EmissionError Fragment) : Emission :=
  match spec.fault? with
  | some e => .fail e
  | none =>
    match spec.kind, value with
    | .static, _ => .of spec.literal.toList
    | _, .error e => .fail e
    | .keyword, .ok f => spec.emitKeyword f
    | .identifier, .ok f => spec.emitIdentifier f
    | .parameter, .ok f => spec.emitParameter f
    | .list, .ok f => spec.emitList f

end FieldSpec

end WarehouseAdmin
