import WarehouseAdmin.Row.Decode
import WarehouseAdmin.Clause.Constant
import WarehouseAdmin.Validation.Rules

/-!
# Objects of the catalog

What a server lists is read from rows into objects. An object knows its own identifier, and
`findOne` picks the object that bears a given one: a listing that is narrowed by a pattern can hold
neighbours, because patterns disregard case and have wildcards.
-/

set_option autoImplicit false

namespace WarehouseAdmin

open Time

/-- Objects that know their identifier. -/
class Identified (α : Type) (Id : outParam Type) where
  id : α → Id
  qualifiedName : Id → String

/-- The first object that bears the identifier. -/
def findOne {α Id : Type} [Identified α Id] [DecidableEq Id] (objects : List α) (id : Id) :
    Except Error α :=
  match objects.find? fun a => Identified.id a = id with
  | some a => .ok a
  | none => .error (.objectNotFound (Identified.qualifiedName α id))

/-- A text that says something: not the empty one. -/
def nonEmpty (s : Option String) : Option String := s.filter (· != "")

/-- A text that says something: neither the empty one nor the word null. -/
def nonNull (s : Option String) : Option String :=
  s.filter fun t => t != "" && !Text.sameLetters t "null"

/-- The columns of a description. -/
structure ObjectDetailRow where
  createdOn : Option Instant := none
  name : String
  kind : Option String := none
deriving DecidableEq, Repr

instance : OfRow ObjectDetailRow where
  ofRow r := do
    let createdOn ← r.decode? Instant "created_on"
    let name ← r.decode String "name"
    let kind ← r.decode? String "kind"
    return { createdOn, name, kind }

/-- One of the objects that a description lists. -/
structure ObjectDetail where
  createdOn : Option Instant := none
  name : String
  kind : Option String := none
deriving DecidableEq, Repr

def ObjectDetail.ofColumns (row : ObjectDetailRow) : ObjectDetail :=
  { row with kind := nonEmpty row.kind }

instance : OfRow ObjectDetail where
  ofRow r := (OfRow.ofRow r).map ObjectDetail.ofColumns

structure Property where
  name : String
  value : Option String := none
deriving DecidableEq, Repr

instance : OfRow Property where
  ofRow r := do
    let name ← r.decode String "property"
    let value ← r.decode? String "value"
    return { name, value }

end WarehouseAdmin
