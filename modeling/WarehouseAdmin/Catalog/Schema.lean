import WarehouseAdmin.Catalog.Database
import WarehouseAdmin.Request.Schema

/-!
# Schemas as listed

A schema is read as a database is, and its options tell besides whether access to it is managed.
-/

set_option autoImplicit false

namespace WarehouseAdmin

open Time

/-- The columns of a listed schema. -/
structure SchemaRow where
  createdOn : Option Instant := none
  name : String
  kind : Option String := none
  databaseName : String
  isDefault : Option Bool := none
  isCurrent : Option Bool := none
  owner : Option String := none
  comment : Option String := none
  options : Option String := none
  retentionTime : Option String := none
  droppedOn : Option Instant := none
  ownerRoleType : Option String := none
deriving DecidableEq, Repr

instance : OfRow SchemaRow where
  ofRow r := do
    let createdOn ← r.decode? Instant "created_on"
    let name ← r.decode String "name"
    let kind ← r.decode? String "kind"
    let databaseName ← r.decode String "database_name"
    let isDefault ← r.decode? Bool "is_default"
    let isCurrent ← r.decode? Bool "is_current"
    let owner ← r.decode? String "owner"
    let comment ← r.decode? String "comment"
    let options ← r.decode? String "options"
    let retentionTime ← r.decode? String "retention_time"
    let droppedOn ← r.decode? Instant "dropped_on"
    let ownerRoleType ← r.decode? String "owner_role_type"
    return {
      createdOn, name, kind, databaseName, isDefault, isCurrent, owner, comment, options,
      retentionTime, droppedOn, ownerRoleType }

structure Schema where
  createdOn : Option Instant := none
  name : String
  databaseName : String
  kind : Option String := none
  isDefault : Bool := false
  isCurrent : Bool := false
  owner : Option String := none
  comment : Option String := none
  transient : Bool := false
  managedAccess : Bool := false
  retentionTime : Option Int := none
  droppedOn : Option Instant := none
  ownerRoleType : Option String := none
deriving DecidableEq, Repr

def Schema.ofColumns (row : SchemaRow) : Schema :=
  { createdOn := row.createdOn
    name := row.name
    databaseName := row.databaseName
    kind := nonEmpty row.kind
    isDefault := row.isDefault.getD false
    isCurrent := row.isCurrent.getD false
    owner := nonEmpty row.owner
    comment := nonEmpty row.comment
    transient := hasOption row.options "TRANSIENT"
    managedAccess := hasOption row.options "MANAGED ACCESS"
    retentionTime := retentionDays row.retentionTime
    droppedOn := row.droppedOn
    ownerRoleType := nonEmpty row.ownerRoleType }

instance : OfRow Schema where
  ofRow r := (OfRow.ofRow r).map Schema.ofColumns

instance : Identified Schema DatabaseObjectId where
  id s := ⟨s.databaseName, s.name⟩
  qualifiedName := DatabaseObjectId.qualifiedName

end WarehouseAdmin
