import WarehouseAdmin.Clause.Constant
import WarehouseAdmin.Request.Parts

/-!
# Requests about alerts

An alert runs an action on a warehouse whenever its condition, a query, has a row. It is created,
altered in exactly one way at a time, dropped, shown and described.
-/

set_option autoImplicit false

namespace WarehouseAdmin

/-- What starts and stops an alert. -/
inductive AlertOperation where
  | resume
  | suspend
deriving DecidableEq, Repr, Inhabited

instance : Constant AlertOperation where
  family := "AlertOperation"
  all := [.resume, .suspend]
  sql
    | .resume => "RESUME"
    | .suspend => "SUSPEND"

inductive AlertState where
  | started
  | suspended
deriving DecidableEq, Repr, Inhabited

instance : Constant AlertState where
  family := "AlertState"
  all := [.started, .suspended]
  sql
    | .started => "STARTED"
    | .suspended => "SUSPENDED"

/-- The query whose result sets off an alert. -/
structure AlertCondition where
  query : String := ""
deriving Repr, Inhabited, DecidableEq

instance : Clause AlertCondition where
  fields r := [
    .keyword "exists" "EXISTS" r.query .inParentheses]

structure CreateAlert where
  orReplace : Option Bool := none
  ifNotExists : Option Bool := none
  name : SchemaObjectId := {}
  warehouse : AccountObjectId := {}
  schedule : String := ""
  comment : Option String := none
  condition : AlertCondition := {}
  action : String := ""
deriving Repr, Inhabited, DecidableEq

instance : Clause CreateAlert where
  fields r := [
    .fixed "create" "CREATE",
    .keyword "or_replace" "OR REPLACE" r.orReplace,
    .fixed "alert" "ALERT",
    .keyword "if_not_exists" "IF NOT EXISTS" r.ifNotExists,
    .required "name" none r.name,
    .required "warehouse" "WAREHOUSE" r.warehouse { equals := true },
    .parameter "schedule" "SCHEDULE" r.schedule .singleQuotes,
    .parameter "comment" "COMMENT" r.comment .singleQuotes,
    .keyword "condition" "IF" r.condition .inParentheses,
    .keyword "action" "THEN" r.action]

instance : Validate CreateAlert where
  failures r :=
    validId r.name.isValid "CreateAlertOptions" "name" ++
    validId r.warehouse.isValid "CreateAlertOptions" "warehouse" ++
    failIf (r.orReplace == some true && r.ifNotExists == some true)
      (.incompatible "CreateAlertOptions" ["or_replace", "if_not_exists"]) ++
    failIf (Text.isBlankText r.schedule) (.notSet "CreateAlertOptions" "schedule") ++
    failIf (Text.isBlankText r.condition.query) (.notSet "CreateAlertOptions" "condition") ++
    failIf (Text.isBlankText r.action) (.notSet "CreateAlertOptions" "action")

structure AlertSet where
  warehouse : Option AccountObjectId := none
  schedule : Option String := none
  comment : Option String := none
deriving Repr, Inhabited, DecidableEq

instance : Clause AlertSet where
  fields r := [
    .identifier "warehouse" "WAREHOUSE" r.warehouse { equals := true },
    .parameter "schedule" "SCHEDULE" r.schedule .singleQuotes,
    .parameter "comment" "COMMENT" r.comment .singleQuotes]

/-- Properties of an alert that go back to their defaults. -/
structure AlertUnset where
  warehouse : Option Bool := none
  schedule : Option Bool := none
  comment : Option Bool := none
deriving Repr, Inhabited, DecidableEq

instance : Clause AlertUnset where
  fields r := [
    .keyword "warehouse" "WAREHOUSE" r.warehouse,
    .keyword "schedule" "SCHEDULE" r.schedule,
    .keyword "comment" "COMMENT" r.comment]

/-- Changes an alert in one way. -/
structure AlterAlert where
  ifExists : Option Bool := none
  name : SchemaObjectId := {}
  operation : Option AlertOperation := none
  set : Option AlertSet := none
  unset : Option AlertUnset := none
  modifyCondition : Option String := none
  modifyAction : Option String := none
deriving Repr, Inhabited, DecidableEq

instance : Clause AlterAlert where
  fields r := [
    .fixed "alter" "ALTER ALERT",
    .keyword "if_exists" "IF EXISTS" r.ifExists,
    .required "name" none r.name,
    .keyword "operation" none r.operation,
    .keyword "set" "SET" r.set,
    .keyword "unset" "UNSET" r.unset,
    .keyword "modify_condition" "MODIFY CONDITION EXISTS" r.modifyCondition .inParentheses,
    .keyword "modify_action" "MODIFY ACTION" r.modifyAction]

def AlterAlert.actions : List String :=
  ["operation", "set", "unset", "modify_condition", "modify_action"]

/-- The rules for properties of an alert that are set. -/
def AlertSet.failures (s : AlertSet) : List Error :=
  failIf (!isGiven s) (.noProperty "AlertSet") ++
  optionalId s.warehouse (·.isValid) "AlertSet" "warehouse"

instance : Validate AlterAlert where
  failures r :=
    validId r.name.isValid "AlterAlertOptions" "name" ++
    exactlyOneOf "AlterAlertOptions" AlterAlert.actions (Clause.fields r) ++
    r.set.toList.flatMap AlertSet.failures ++
    optionalGroup r.unset "AlertUnset"

structure DropAlert where
  ifExists : Option Bool := none
  name : SchemaObjectId := {}
deriving Repr, Inhabited, DecidableEq

instance : Clause DropAlert where
  fields r := [
    .fixed "drop" "DROP ALERT",
    .keyword "if_exists" "IF EXISTS" r.ifExists,
    .required "name" none r.name]

instance : Validate DropAlert where
  failures r := validId r.name.isValid "DropAlertOptions" "name"

structure ShowAlerts where
  terse : Option Bool := none
  like : Option Like := none
  within : Option Within := none
  startsWith : Option String := none
  limit : Option Int := none
deriving Repr, Inhabited, DecidableEq

instance : Clause ShowAlerts where
  fields r := [
    .fixed "show" "SHOW",
    .keyword "terse" "TERSE" r.terse,
    .fixed "alerts" "ALERTS",
    .keyword "like" "LIKE" r.like,
    .keyword "in_" "IN" r.within,
    .parameter "starts_with" "STARTS WITH" r.startsWith { noEquals := true, quotes := .single },
    .parameter "limit" "LIMIT" r.limit { noEquals := true }]

instance : Validate ShowAlerts where
  failures r :=
    nestedOption r.within ++
    failIf (r.limit.any (· < 1)) (.limitNotPositive "ShowAlertOptions")

/-- Shows what bears the name, as a pattern, in the alert's schema. -/
def ShowAlerts.forId (id : SchemaObjectId) : ShowAlerts :=
  { like := some ⟨id.name⟩, within := some (.ofSchema id.schemaId) }

structure DescribeAlert where
  name : SchemaObjectId := {}
deriving Repr, Inhabited, DecidableEq

instance : Clause DescribeAlert where
  fields r := [
    .fixed "describe" "DESCRIBE ALERT",
    .required "name" none r.name]

instance : Validate DescribeAlert where
  failures r := validId r.name.isValid "DescribeAlertOptions" "name"

end WarehouseAdmin
