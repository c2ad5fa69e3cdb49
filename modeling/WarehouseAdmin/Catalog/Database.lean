import WarehouseAdmin.Catalog.Basic
import WarehouseAdmin.Request.Database

/-!
# Databases as listed

A terse listing leaves out most columns. Whether a database is transient is told by the text of its
options, and its retention time comes as text.
-/

set_option autoImplicit false

namespace WarehouseAdmin

open Time

/-- Says whether a text of options names an option, in any case. -/
def hasOption (options : Option String) (name : String) : Bool :=
  Text.contains (Text.upper (options.getD "")) name

/-- The number of days that a text names, if it names one. -/
def retentionDays (s : Option String) : Option Int := s.bind fun t => Text.readInt64 (Text.trim t)

/-- The columns of a listed database. -/
structure DatabaseRow where
  createdOn : Option Instant := none
  name : String
  kind : Option String := none
  isDefault : Option Bool := none
  isCurrent : Option Bool := none
  origin : Option String := none
  owner : Option String := none
  comment : Option String := none
  options : Option String := none
  retentionTime : Option String := none
  droppedOn : Option Instant := none
  ownerRoleType : Option String := none
deriving DecidableEq, Repr

instance : OfRow DatabaseRow where
  ofRow r := do
    let createdOn ← r.decode? Instant "created_on"
    let name ← r.decode String "name"
    let kind ← r.decode? String "kind"
    let isDefault ← r.decode? Bool "is_default"
    let isCurrent ← r.decode? Bool "is_current"
    let origin ← r.decode? String "origin"
    let owner ← r.decode? String "owner"
    let comment ← r.decode? String "comment"
    let options ← r.decode? String "options"
    let retentionTime ← r.decode? String "retention_time"
    let droppedOn ← r.decode? Instant "dropped_on"
    let ownerRoleType ← r.decode? String "owner_role_type"
    return {
      createdOn, name, kind, isDefault, isCurrent, origin, owner, comment, options, retentionTime,
      droppedOn, ownerRoleType }

structure Database where
  createdOn : Option Instant := none
  name : String
  kind : Option String := none
  isDefault : Bool := false
  isCurrent : Bool := false
  origin : Option String := none
  owner : Option String := none
  comment : Option String := none
  transient : Bool := false
  retentionTime : Option Int := none
  droppedOn : Option Instant := none
  ownerRoleType : Option String := none
deriving DecidableEq, Repr

def Database.ofColumns (row : DatabaseRow) : Database :=
  { createdOn := row.createdOn
    name := row.name
    kind := nonEmpty row.kind
    isDefault := row.isDefault.getD false
    isCurrent := row.isCurrent.getD false
    origin := nonEmpty row.origin
    owner := nonEmpty row.owner
    comment := nonEmpty row.comment
    transient := hasOption row.options "TRANSIENT"
    retentionTime := retentionDays row.retentionTime
    droppedOn := row.droppedOn
    ownerRoleType := nonEmpty row.ownerRoleType }

instance : OfRow Database where
  ofRow r := (OfRow.ofRow r).map Database.ofColumns

instance : Identified Database AccountObjectId where
  id d := ⟨d.name⟩
  qualifiedName := AccountObjectId.qualifiedName

end WarehouseAdmin
