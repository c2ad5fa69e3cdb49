import WarehouseAdmin.Request.Parts

/-!
# Requests about databases

A database is created, possibly as the clone of another one at a point in time, altered in exactly one
way at a time, dropped, shown and described.
-/

set_option autoImplicit false

namespace WarehouseAdmin

/-- The database that a new one is cloned from. -/
structure DatabaseClone where
  source : AccountObjectId := {}
  point : Option ClonePoint := none
deriving Repr, Inhabited, DecidableEq

instance : Clause DatabaseClone where
  fields r := [
    .required "source" none r.source,
    .keyword "at_or_before" none r.point]

instance : Validate DatabaseClone where
  failures r := validId r.source.isValid "DatabaseClone" "source" ++ nestedOption r.point

structure CreateDatabase where
  orReplace : Option Bool := none
  transient : Option Bool := none
  ifNotExists : Option Bool := none
  name : AccountObjectId := {}
  clone : Option DatabaseClone := none
  dataRetentionTimeInDays : Option Int := none
  maxDataExtensionTimeInDays : Option Int := none
  defaultDdlCollation : Option String := none
  comment : Option String := none
  tag : List Tag := []
deriving Repr, Inhabited, DecidableEq

instance : Clause CreateDatabase where
  fields r := [
    .fixed "create" "CREATE",
    .keyword "or_replace" "OR REPLACE" r.orReplace,
    .keyword "transient" "TRANSIENT" r.transient,
    .fixed "database" "DATABASE",
    .keyword "if_not_exists" "IF NOT EXISTS" r.ifNotExists,
    .required "name" none r.name,
    .keyword "clone" "CLONE" r.clone,
    .parameter "data_retention_time_in_days" "DATA_RETENTION_TIME_IN_DAYS"
      r.dataRetentionTimeInDays,
    .parameter "max_data_extension_time_in_days" "MAX_DATA_EXTENSION_TIME_IN_DAYS"
      r.maxDataExtensionTimeInDays,
    .parameter "default_ddl_collation" "DEFAULT_DDL_COLLATION" r.defaultDdlCollation .singleQuotes,
    .parameter "comment" "COMMENT" r.comment .singleQuotes,
    .keyword "tag" "WITH TAG" r.tag .inParentheses]

instance : Validate CreateDatabase where
  failures r :=
    validId r.name.isValid "CreateDatabaseOptions" "name" ++
    failIf (r.orReplace == some true && r.ifNotExists == some true)
      (.incompatible "CreateDatabaseOptions" ["or_replace", "if_not_exists"]) ++
    nestedOption r.clone ++
    tagFailures r.tag "CreateDatabaseOptions" "tag"

structure DatabaseSet where
  dataRetentionTimeInDays : Option Int := none
  maxDataExtensionTimeInDays : Option Int := none
  defaultDdlCollation : Option String := none
  comment : Option String := none
deriving Repr, Inhabited, DecidableEq

instance : Clause DatabaseSet where
  fields r := [
    .parameter "data_retention_time_in_days" "DATA_RETENTION_TIME_IN_DAYS"
      r.dataRetentionTimeInDays,
    .parameter "max_data_extension_time_in_days" "MAX_DATA_EXTENSION_TIME_IN_DAYS"
      r.maxDataExtensionTimeInDays,
    .parameter "default_ddl_collation" "DEFAULT_DDL_COLLATION" r.defaultDdlCollation .singleQuotes,
    .parameter "comment" "COMMENT" r.comment .singleQuotes]

/-- Properties of a database that go back to their defaults. -/
structure DatabaseUnset where
  dataRetentionTimeInDays : Option Bool := none
  maxDataExtensionTimeInDays : Option Bool := none
  defaultDdlCollation : Option Bool := none
  comment : Option Bool := none
deriving Repr, Inhabited, DecidableEq

instance : Clause DatabaseUnset where
  fields r := [
    .keyword "data_retention_time_in_days" "DATA_RETENTION_TIME_IN_DAYS" r.dataRetentionTimeInDays,
    .keyword "max_data_extension_time_in_days" "MAX_DATA_EXTENSION_TIME_IN_DAYS"
      r.maxDataExtensionTimeInDays,
    .keyword "default_ddl_collation" "DEFAULT_DDL_COLLATION" r.defaultDdlCollation,
    .keyword "comment" "COMMENT" r.comment]

/-- Changes a database in one way. -/
structure AlterDatabase where
  ifExists : Option Bool := none
  name : AccountObjectId := {}
  newName : Option AccountObjectId := none
  swapWith : Option AccountObjectId := none
  set : Option DatabaseSet := none
  unset : Option DatabaseUnset := none
  setTag : List Tag := []
  unsetTag : List SchemaObjectId := []
deriving Repr, Inhabited, DecidableEq

instance : Clause AlterDatabase where
  fields r := [
    .fixed "alter" "ALTER DATABASE",
    .keyword "if_exists" "IF EXISTS" r.ifExists,
    .required "name" none r.name,
    .identifier "new_name" "RENAME TO" r.newName,
    .identifier "swap_with" "SWAP WITH" r.swapWith,
    .keyword "set" "SET" r.set,
    .keyword "unset" "UNSET" r.unset,
    .keyword "set_tag" "SET TAG" r.setTag .bare,
    .keyword "unset_tag" "UNSET TAG" r.unsetTag .bare]

def AlterDatabase.actions : List String :=
  ["new_name", "swap_with", "set", "unset", "set_tag", "unset_tag"]

instance : Validate AlterDatabase where
  failures r :=
    validId r.name.isValid "AlterDatabaseOptions" "name" ++
    exactlyOneOf "AlterDatabaseOptions" AlterDatabase.actions (Clause.fields r) ++
    optionalId r.newName (·.isValid) "AlterDatabaseOptions" "new_name" ++
    optionalId r.swapWith (·.isValid) "AlterDatabaseOptions" "swap_with" ++
    optionalGroup r.set "DatabaseSet" ++
    optionalGroup r.unset "DatabaseUnset" ++
    tagFailures r.setTag "AlterDatabaseOptions" "set_tag" ++
    tagNameFailures r.unsetTag "AlterDatabaseOptions" "unset_tag"

structure DropDatabase where
  ifExists : Option Bool := none
  name : AccountObjectId := {}
  cascade : Option Bool := none
  restrict : Option Bool := none
deriving Repr, Inhabited, DecidableEq

instance : Clause DropDatabase where
  fields r := [
    .fixed "drop" "DROP DATABASE",
    .keyword "if_exists" "IF EXISTS" r.ifExists,
    .required "name" none r.name,
    .keyword "cascade" "CASCADE" r.cascade,
    .keyword "restrict" "RESTRICT" r.restrict]

instance : Validate DropDatabase where
  failures r :=
    validId r.name.isValid "DropDatabaseOptions" "name" ++
    failIf (r.cascade == some true && r.restrict == some true)
      (.incompatible "DropDatabaseOptions" ["cascade", "restrict"])

structure ShowDatabases where
  terse : Option Bool := none
  history : Option Bool := none
  like : Option Like := none
  startsWith : Option String := none
  limit : Option Limit := none
deriving Repr, Inhabited, DecidableEq

instance : Clause ShowDatabases where
  fields r := [
    .fixed "show" "SHOW",
    .keyword "terse" "TERSE" r.terse,
    .fixed "databases" "DATABASES",
    .keyword "history" "HISTORY" r.history,
    .keyword "like" "LIKE" r.like,
    .parameter "starts_with" "STARTS WITH" r.startsWith { noEquals := true, quotes := .single },
    .keyword "limit" "LIMIT" r.limit]

instance : Validate ShowDatabases := ⟨fun r => nestedOption r.limit⟩

/-- Shows what bears the name, as a pattern. -/
def ShowDatabases.forId (id : AccountObjectId) : ShowDatabases := { like := some ⟨id.name⟩ }

structure DescribeDatabase where
  name : AccountObjectId := {}
deriving Repr, Inhabited, DecidableEq

instance : Clause DescribeDatabase where
  fields r := [
    .fixed "describe" "DESCRIBE DATABASE",
    .required "name" none r.name]

instance : Validate DescribeDatabase where
  failures r := validId r.name.isValid "DescribeDatabaseOptions" "name"

end WarehouseAdmin
