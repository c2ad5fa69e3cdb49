import WarehouseAdmin.Catalog.Basic
import WarehouseAdmin.Request.Alert

/-!
# Alerts as listed

A listing and a description of alerts have the same columns.
-/

set_option autoImplicit false

namespace WarehouseAdmin

open Time

/-- The columns of a listed alert. -/
structure AlertRow where
  createdOn : Option Instant := none
  name : String
  databaseName : String
  schemaName : String
  owner : Option String := none
  comment : Option String := none
  warehouse : Option String := none
  schedule : Option String := none
  state : Option String := none
  condition : Option String := none
  action : Option String := none
deriving DecidableEq, Repr

instance : OfRow AlertRow where
  ofRow r := do
    let createdOn ← r.decode? Instant "created_on"
    let name ← r.decode String "name"
    let databaseName ← r.decode String "database_name"
    let schemaName ← r.decode String "schema_name"
    let owner ← r.decode? String "owner"
    let comment ← r.decode? String "comment"
    let warehouse ← r.decode? String "warehouse"
    let schedule ← r.decode? String "schedule"
    let state ← r.decode? String "state"
    let condition ← r.decode? String "condition"
    let action ← r.decode? String "action"
    return {
      createdOn, name, databaseName, schemaName, owner, comment, warehouse, schedule, state,
      condition, action }

structure Alert where
  createdOn : Option Instant := none
  name : String
  databaseName : String
  schemaName : String
  owner : Option String := none
  comment : Option String := none
  warehouse : Option String := none
  schedule : Option String := none
  state : Option AlertState := none
  condition : Option String := none
  action : Option String := none
deriving DecidableEq, Repr

def Alert.ofColumns (row : AlertRow) : Alert :=
  { createdOn := row.createdOn
    name := row.name
    databaseName := row.databaseName
    schemaName := row.schemaName
    owner := nonEmpty row.owner
    comment := nonEmpty row.comment
    warehouse := nonEmpty row.warehouse
    schedule := nonEmpty row.schedule
    state := row.state.bind Constant.read?
    condition := nonEmpty row.condition
    action := nonEmpty row.action }

instance : OfRow Alert where
  ofRow r := (OfRow.ofRow r).map Alert.ofColumns

instance : Identified Alert SchemaObjectId where
  id a := ⟨a.databaseName, a.schemaName, a.name⟩
  qualifiedName := SchemaObjectId.qualifiedName

end WarehouseAdmin
