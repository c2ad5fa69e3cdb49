import WarehouseAdmin.Validation.Rules

/-!
# Clauses that requests share

Patterns for names, places, limits, tags and points in time.
-/

set_option autoImplicit false

namespace WarehouseAdmin

/-- A pattern for names: `%` stands for any run of characters and `_` for any one. -/
structure Like where
  pattern : String := ""
deriving Repr, Inhabited, DecidableEq

instance : Clause Like where
  fields r := [
    .keyword "pattern" none r.pattern .singleQuotes]

/-- The place whose objects are shown: the account, a database or a schema. -/
structure Within where
  account : Option Bool := none
  database : Option AccountObjectId := none
  schema : Option DatabaseObjectId := none
deriving Repr, Inhabited, DecidableEq

instance : Clause Within where
  fields r := [
    .keyword "account" "ACCOUNT" r.account,
    .identifier "database" "DATABASE" r.database,
    .identifier "schema" "SCHEMA" r.schema]

instance : Validate Within where
  failures r :=
    exactlyOneOf "In" ["account", "database", "schema"] (Clause.fields r) ++
    optionalId r.database (·.isValid) "In" "database" ++
    optionalId r.schema (·.isValid) "In" "schema"

namespace Within

def ofAccount : Within := { account := some true }

def ofDatabase (id : AccountObjectId) : Within := { database := some id }

def ofSchema (id : DatabaseObjectId) : Within := { schema := some id }

end Within

/-- How many objects are shown, and after which name. -/
structure Limit where
  rows : Option Int := none
  startingAt : Option String := none
deriving Repr, Inhabited, DecidableEq

instance : Clause Limit where
  fields r := [
    .keyword "rows" none r.rows,
    .parameter "from" "FROM" r.startingAt { noEquals := true, quotes := .single }]

instance : Validate Limit where
  failures r := failIf r.rows.isNone (.notSet "LimitFrom" "rows")

structure Tag where
  name : SchemaObjectId := {}
  value : String := ""
deriving Repr, Inhabited, DecidableEq

instance : Clause Tag where
  fields r := [
    .required "name" none r.name,
    .fixed "eq" "=",
    .keyword "value" none r.value .singleQuotes]

/-- Tags need a valid name and a value. -/
def tagFailures (tags : List Tag) (request field : String) : List Error :=
  tags.flatMap fun tag =>
    validId tag.name.isValid request field ++
    failIf (tag.value == "") (.notSet request (field ++ ".value"))

/-- Tags that are only named need a valid name. -/
def tagNameFailures (names : List SchemaObjectId) (request field : String) : List Error :=
  names.flatMap fun name => validId name.isValid request field

/-- A point in time, named in one of three ways. -/
structure TimeTravel where
  timestamp : Option String := none
  offset : Option Int := none
  statement : Option String := none
deriving Repr, Inhabited, DecidableEq

instance : Clause TimeTravel where
  fields r := [
    .parameter "timestamp" "TIMESTAMP =>" r.timestamp { noEquals := true, quotes := .single },
    .parameter "offset" "OFFSET =>" r.offset { noEquals := true },
    .parameter "statement" "STATEMENT =>" r.statement { noEquals := true, quotes := .single }]

instance : Validate TimeTravel where
  failures r := exactlyOneOf "TimeTravel" ["timestamp", "offset", "statement"] (Clause.fields r)

/-- The point in time at which an object is cloned: at it, or just before it. -/
structure ClonePoint where
  atPoint : Option TimeTravel := none
  beforePoint : Option TimeTravel := none
deriving Repr, Inhabited, DecidableEq

instance : Clause ClonePoint where
  fields r := [
    .keyword "at" "AT" r.atPoint .inParentheses,
    .keyword "before" "BEFORE" r.beforePoint .inParentheses]

instance : Validate ClonePoint where
  failures r :=
    failIf (r.atPoint.isSome && r.beforePoint.isSome) (.incompatible "CloneAt" ["at", "before"]) ++
    nestedOption r.atPoint ++
    nestedOption r.beforePoint

end WarehouseAdmin
