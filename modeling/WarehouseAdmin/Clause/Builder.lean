import WarehouseAdmin.Clause.Value

/-!
# Statements token by token

A `Builder` collects the tokens of one statement. Fields are written to it one after another: each
adds its tokens to what is there, and one that fails leaves on the builder what it had added by then.
A clause that stands as the value of a field is collected by a builder of its own, and then is a
single value of the outer one.
-/

set_option autoImplicit false

namespace WarehouseAdmin

/-- The tokens collected so far. -/
structure Builder where
  tokens : List String := []
deriving DecidableEq, Repr, Inhabited

namespace Builder

/-- Adds a token without the blanks around it; a blank one is dropped. -/
def push (b : Builder) (token : String) : Builder :=
  let token := Text.trim token
  if token = "" then b else { b with tokens := b.tokens ++ [token] }

/-- The statement that the tokens make. -/
def finish (b : Builder) : String := statement b.tokens

end Builder

/-- What adds to a builder, and can fail on the way. -/
abbrev Writing := ExceptT EmissionError (StateM Builder)

namespace Writing

/-- Goes on with a builder: the outcome, and the builder as it is left. -/
def on (w : Writing Unit) (b : Builder) : Except EmissionError Unit × Builder := StateT.run w.run b

/-- The builder that comes of an empty one, unless there is a failure. -/
def collect (w : Writing Unit) : Except EmissionError Builder :=
  match w.on {} with
  | (.ok (), b) => .ok b
  | (.error e, _) => .error e

def push (token : String) : Writing Unit := modify (·.push token)

end Writing

namespace FieldSpec

open Writing

def requireLiteral (spec : FieldSpec) : Except EmissionError String :=
  match spec.literal with
  | some literal => .ok literal
  | none => .error spec.lackingLiteral

def writeLiteral (spec : FieldSpec) : Writing Unit :=
  match spec.literal with
  | some literal => push literal
  | none => return

def writeKeyword (spec : FieldSpec) (f : Fragment) : Writing Unit :=
  if f.isSet then
    match f with
    | .flag b => do
      let literal ← spec.requireLiteral
      if b then push literal
    | f => do
      let text ← spec.valueText f
      spec.writeLiteral
      push (spec.wrap text)
  else return

def writeName (spec : FieldSpec) (name : String) : Writing Unit := do
  spec.writeLiteral
  if spec.literal.isSome && spec.modifiers.equals then push "="
  push name

def writeIdentifier (spec : FieldSpec) : Fragment → Writing Unit
  | .unset => if spec.modifiers.required then throw (.missingIdentifier spec.name) else return
  | .identifier name => spec.writeName name
  | .list [] => return
  | .list items =>
    if items.all Fragment.isIdentifier then do
      let text ← spec.listText items
      spec.writeName (spec.wrap text)
    else throw (spec.misfit .notIdentifiers)
  | _ => throw (spec.misfit .notIdentifier)

def writeParameter (spec : FieldSpec) (f : Fragment) : Writing Unit := do
  let literal ← spec.requireLiteral
  if spec.parameterSkips f then return
  else
    let text ← spec.valueText f
    push literal
    if !spec.modifiers.noEquals then push "="
    push (spec.wrap text)

/-- The literal is on the builder before the elements are looked at. -/
def writeItems (spec : FieldSpec) (items : List Fragment) : Writing Unit :=
  if items.isEmpty && !spec.modifiers.mustParentheses then return
  else do
    spec.writeLiteral
    let text ← spec.listText items
    push (spec.wrap text)

def writeList (spec : FieldSpec) : Fragment → Writing Unit
  | .unset => spec.writeItems []
  | .list items => spec.writeItems items
  | _ => throw (spec.misfit .notSequence)

/-- Writes the field whose value comes to `value`. -/
def write (spec : FieldSpec) (value : Except EmissionError Fragment) : Writing Unit := do
  spec.check
  match spec.kind with
  | .static => push (← spec.requireLiteral)
  | .keyword => spec.writeKeyword (← value)
  | .identifier => spec.writeIdentifier (← value)
  | .parameter => spec.writeParameter (← value)
  | .list => spec.writeList (← value)

end FieldSpec

namespace Writing

mutual

/-- What the value comes to; a clause is collected by a builder of its own. -/
def value : FieldValue → Except EmissionError Fragment
  | .present v => value v
  | .many vs => (values vs).map .list
  | .clause fs =>
    if FieldValue.isSet (.clause fs) then (fields fs).collect.map fun b => .clause b.tokens
    else .ok .unset
  | v => v.toFragment

/-- What the elements come to, up to the first that fails. -/
def values : List FieldValue → Except EmissionError (List Fragment)
  | [] => return []
  | v :: rest => do
    let f ← value v
    let others ← values rest
    return f :: others

/-- Writes the fields in order, up to the first that fails. -/
def fields : List Field → Writing Unit
  | [] => return
  | (spec, v) :: rest => do
    spec.write (value v)
    fields rest

end

/-- Writes one field. -/
def field (f : Field) : Writing Unit := f.1.write (value f.2)

/-- Writes the fields of `a`. -/
def clause {α : Type} [Clause α] (a : α) : Writing Unit := fields (Clause.fields a)

end Writing

end WarehouseAdmin
