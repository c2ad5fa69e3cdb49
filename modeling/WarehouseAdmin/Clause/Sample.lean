import WarehouseAdmin.Clause.Constant
import WarehouseAdmin.Request.Parts

/-!
# Sample clauses

Clauses about a made-up kind of object, the thing. Between them they use every kind of field and
every modifier, nest clauses to any depth that requests do, and one of them is described wrongly.
They have no rules of their own, so they are emitted as they are.
-/

set_option autoImplicit false

namespace WarehouseAdmin.Sample

inductive Size where
  | xSmall
  | small
deriving DecidableEq, Repr, Inhabited

instance : Constant Size where
  family := "Size"
  all := [.xSmall, .small]
  sql
    | .xSmall => "XSMALL"
    | .small => "SMALL"
  otherNames
    | .xSmall => ["X-SMALL"]
    | .small => []

structure CreateThing where
  orReplace : Option Bool := none
  ifNotExists : Option Bool := none
  name : AccountObjectId := {}
  size : Option Size := none
  autoSuspend : Option Int := none
  enabled : Option Bool := none
  comment : Option String := none
deriving Repr, Inhabited, DecidableEq

instance : Clause CreateThing where
  fields r := [
    .fixed "create" "CREATE",
    .keyword "or_replace" "OR REPLACE" r.orReplace,
    .fixed "thing" "THING",
    .keyword "if_not_exists" "IF NOT EXISTS" r.ifNotExists,
    .required "name" none r.name,
    .parameter "size" "SIZE" r.size .singleQuotes,
    .parameter "auto_suspend" "AUTO_SUSPEND" r.autoSuspend,
    .parameter "enabled" "ENABLED" r.enabled,
    .parameter "comment" "COMMENT" r.comment .singleQuotes]

structure ThingSet where
  autoSuspend : Option Int := none
  comment : Option String := none
deriving Repr, Inhabited, DecidableEq

instance : Clause ThingSet where
  fields r := [
    .parameter "auto_suspend" "AUTO_SUSPEND" r.autoSuspend,
    .parameter "comment" "COMMENT" r.comment .singleQuotes]

/-- Properties of a thing that go back to their defaults. -/
structure ThingUnset where
  autoSuspend : Option Bool := none
  comment : Option Bool := none
deriving Repr, Inhabited, DecidableEq

instance : Clause ThingUnset where
  fields r := [
    .keyword "auto_suspend" "AUTO_SUSPEND" r.autoSuspend,
    .keyword "comment" "COMMENT" r.comment]

structure Condition where
  query : String := ""
deriving Repr, Inhabited, DecidableEq

instance : Clause Condition where
  fields r := [
    .keyword "exists" "EXISTS" r.query .inParentheses]

structure AlterThing where
  ifExists : Option Bool := none
  name : AccountObjectId := {}
  newName : Option AccountObjectId := none
  set : Option ThingSet := none
  unset : Option ThingUnset := none
  setTag : List Tag := []
  condition : Option Condition := none
  allowed : Option (List String) := none
  arguments : Option (List String) := none
deriving Repr, Inhabited, DecidableEq

instance : Clause AlterThing where
  fields r := [
    .fixed "alter" "ALTER THING",
    .keyword "if_exists" "IF EXISTS" r.ifExists,
    .required "name" none r.name,
    .identifier "new_name" "RENAME TO" r.newName,
    .keyword "set" "SET" r.set,
    .keyword "unset" "UNSET" r.unset,
    .keyword "set_tag" "SET TAG" r.setTag .bare,
    .keyword "condition" "IF" r.condition .inParentheses,
    .list "allowed" "ALLOWED" r.allowed { parentheses := true, quotes := .single },
    .parameter "args" "ARGS" r.arguments { mustParentheses := true }]

/-- An option that is granted along. -/
structure Grant where
  grantOption : Option Bool := none
deriving Repr, Inhabited, DecidableEq

instance : Clause Grant where
  fields r := [
    .fixed "with" "WITH",
    .keyword "grant_option" "GRANT OPTION" r.grantOption]

/-- Creates a thing whose clauses are not optional. -/
structure CreateGuarded where
  name : AccountObjectId := {}
  comment : String := ""
  condition : Condition := {}
  grant : Grant := {}
deriving Repr, Inhabited, DecidableEq

instance : Clause CreateGuarded where
  fields r := [
    .fixed "create" "CREATE THING",
    .required "name" none r.name,
    .parameter "comment" "COMMENT" r.comment .singleQuotes,
    .keyword "condition" "IF" r.condition .inParentheses,
    .keyword "grant" none r.grant]

/-- A clause that always is the same. -/
structure StaticOnly where
deriving Repr, Inhabited, DecidableEq

instance : Clause StaticOnly where
  fields _ := [
    .fixed "always" "ALWAYS",
    .fixed "here" "HERE"]

/-- A clause with fields of every kind. -/
structure EveryKind where
  words : List String := []
  columns : List String := []
  must : Option (List String) := none
  ids : List SchemaObjectId := []
  raw : Option String := none
  quoted : Option String := none
  ratio : Option Float := none
  grant : Option Grant := none
  options : Option ThingSet := none
  tags : List Tag := []
  count : Option Int := none
  always : Option StaticOnly := none
deriving Repr, Inhabited

instance : Clause EveryKind where
  fields r := [
    .fixed "kitchen" "KITCHEN",
    .list "words" "WORDS" r.words { noComma := true },
    .list "cols" none r.columns { parentheses := true, quotes := .double },
    .list "must" "MUST" r.must { mustParentheses := true, quotes := .single },
    .required "ids" "OVER" r.ids .inParentheses,
    .parameter "raw" "RAW" r.raw,
    .parameter "dq" "DQ" r.quoted .doubleQuotes,
    .parameter "ratio" "RATIO" r.ratio .singleQuotes,
    .keyword "nested" "NESTED" r.grant .inParentheses,
    .parameter "opts" "OPTS" r.options .inParentheses,
    .list "tags" "TAGS" r.tags,
    .keyword "count" "COUNT" r.count,
    .keyword "stat" none r.always]

/-- A clause whose fields are described wrongly: they need literals and have none. -/
structure Misdescribed where
  flag : Option Bool := none
  param : Option Int := none
deriving Repr, Inhabited, DecidableEq

instance : Clause Misdescribed where
  fields r := [
    .keyword "flag" none r.flag,
    (⟨"param", .parameter, none, {}⟩, toFieldValue r.param)]

end WarehouseAdmin.Sample
