import WarehouseAdmin.Json.Atom

/-!
# Reading a JSON document

The document holds one value and nothing else. Arrays and objects may be nested to any depth: those
that are still open wait on a stack while the lexemes are read one by one, and each lexeme either
has a place or makes the document unreadable.
-/

set_option autoImplicit false

namespace WarehouseAdmin.Json

/-- An array or an object that is still open, with what it holds so far, backwards. -/
inductive Frame where
  | array (items : List Value)
  | object (members : List (Option String × Value))
  /-- An object whose member with this key is being read. -/
  | member (members : List (Option String × Value)) (key : Option String)

/-- What comes next. -/
inductive Await where
  | value
  | itemOrEnd
  | key
  | keyOrEnd
  | colon
  /-- A value was just read; it has its end or a comma behind it. -/
  | after (v : Value)

def beginValue (stack : List Frame) : Lexeme → Option (List Frame × Await)
  | .openBracket => some (.array [] :: stack, .itemOrEnd)
  | .openBrace => some (.object [] :: stack, .keyOrEnd)
  | .word cs => (Value.ofWord? cs).map fun v => (stack, .after v)
  | .quoted cs => (text? cs).map fun s => (stack, .after (.text s))
  | _ => none

/-- Begins a member of the innermost object. -/
def beginMember : List Frame → List Char → Option (List Frame × Await)
  | .object members :: stack, cs => (text? cs).map fun key => (.member members key :: stack, .colon)
  | _, _ => none

/-- Ends the value `v`, which stands in the innermost open array or object. -/
def endValue (v : Value) : List Frame → Lexeme → Option (List Frame × Await)
  | .array items :: stack, .comma => some (.array (v :: items) :: stack, .value)
  | .array items :: stack, .closeBracket => some (stack, .after (.array (v :: items).reverse))
  | .member members key :: stack, .comma => some (.object ((key, v) :: members) :: stack, .key)
  | .member members key :: stack, .closeBrace =>
    some (stack, .after (.object ((key, v) :: members).reverse))
  | _, _ => none

/-- Finds the place of one lexeme. -/
def step (stack : List Frame) : Await → Lexeme → Option (List Frame × Await)
  | .value, l => beginValue stack l
  | .itemOrEnd, .closeBracket => some (stack.tail, .after (.array []))
  | .itemOrEnd, l => beginValue stack l
  | .keyOrEnd, .closeBrace => some (stack.tail, .after (.object []))
  | .keyOrEnd, .quoted cs => beginMember stack cs
  | .key, .quoted cs => beginMember stack cs
  | .colon, .colon => some (stack, .value)
  | .after v, l => endValue v stack l
  | _, _ => none

def readFrom : List Frame → Await → List Lexeme → Option Value
  | [], .after v, [] => some v
  | _, _, [] => none
  | stack, await, l :: rest =>
    match step stack await l with
    | some (stack, await) => readFrom stack await rest
    | none => none

def read (document : String) : Option Value := (lexemes document).bind (readFrom [] .value)

end WarehouseAdmin.Json
