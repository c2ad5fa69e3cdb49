import WarehouseAdmin.Request.Parts

/-!
# Requests about schemas

A schema is created, possibly as the clone of another one at a point in time, altered in exactly one
way at a time, dropped, shown and described. A schema that gets a new name stays in its database.
-/

set_option autoImplicit false

namespace WarehouseAdmin

/-- The schema that a new one is cloned from. -/
structure SchemaClone where
  source : DatabaseObjectId := {}
  point : Option ClonePoint := none
deriving Repr, Inhabited, DecidableEq

instance : Clause SchemaClone where
  fields r := [
    .required "source" none r.source,
    .keyword "at_or_before" none r.point]

instance : Validate SchemaClone where
  failures r := validId r.source.isValid "SchemaClone" "source" ++ nestedOption r.point

structure CreateSchema where
  orReplace : Option Bool := none
  transient : Option Bool := none
  ifNotExists : Option Bool := none
  name : DatabaseObjectId := {}
  clone : Option SchemaClone := none
  withManagedAccess : Option Bool := none
  dataRetentionTimeInDays : Option Int := none
  maxDataExtensionTimeInDays : Option Int := none
  defaultDdlCollation : Option String := none
  comment : Option String := none
  tag : List Tag := []
deriving Repr, Inhabited, DecidableEq

instance : Clause CreateSchema where
  fields r := [
    .fixed "create" "CREATE",
    .keyword "or_replace" "OR REPLACE" r.orReplace,
    .keyword "transient" "TRANSIENT" r.transient,
    .fixed "schema" "SCHEMA",
    .keyword "if_not_exists" "IF NOT EXISTS" r.ifNotExists,
    .required "name" none r.name,
    .keyword "clone" "CLONE" r.clone,
    .keyword "with_managed_access" "WITH MANAGED ACCESS" r.withManagedAccess,
    .parameter "data_retention_time_in_days" "DATA_RETENTION_TIME_IN_DAYS"
      r.dataRetentionTimeInDays,
    .parameter "max_data_extension_time_in_days" "MAX_DATA_EXTENSION_TIME_IN_DAYS"
      r.maxDataExtensionTimeInDays,
    .parameter "default_ddl_collation" "DEFAULT_DDL_COLLATION" r.defaultDdlCollation .singleQuotes,
    .parameter "comment" "COMMENT" r.comment .singleQuotes,
    .keyword "tag" "WITH TAG" r.tag .inParentheses]

instance : Validate CreateSchema where
  failures r :=
    validId r.name.isValid "CreateSchemaOptions" "name" ++
    failIf (r.orReplace == some true && r.ifNotExists == some true)
      (.incompatible "CreateSchemaOptions" ["or_replace", "if_not_exists"]) ++
    nestedOption r.clone ++
    tagFailures r.tag "CreateSchemaOptions" "tag"

structure SchemaSet where
  dataRetentionTimeInDays : Option Int := none
  maxDataExtensionTimeInDays : Option Int := none
  defaultDdlCollation : Option String := none
  comment : Option String := none
deriving Repr, Inhabited, DecidableEq

instance : Clause SchemaSet where
  fields r := [
    .parameter "data_retention_time_in_days" "DATA_RETENTION_TIME_IN_DAYS"
      r.dataRetentionTimeInDays,
    .parameter "max_data_extension_time_in_days" "MAX_DATA_EXTENSION_TIME_IN_DAYS"
      r.maxDataExtensionTimeInDays,
    .parameter "default_ddl_collation" "DEFAULT_DDL_COLLATION" r.defaultDdlCollation .singleQuotes,
    .parameter "comment" "COMMENT" r.comment .singleQuotes]

/-- Properties of a schema that go back to their defaults. -/
structure SchemaUnset where
  dataRetentionTimeInDays : Option Bool := none
  maxDataExtensionTimeInDays : Option Bool := none
  defaultDdlCollation : Option Bool := none
  comment : Option Bool := none
deriving Repr, Inhabited, DecidableEq

instance : Clause SchemaUnset where
  fields r := [
    .keyword "data_retention_time_in_days" "DATA_RETENTION_TIME_IN_DAYS" r.dataRetentionTimeInDays,
    .keyword "max_data_extension_time_in_days" "MAX_DATA_EXTENSION_TIME_IN_DAYS"
      r.maxDataExtensionTimeInDays,
    .keyword "default_ddl_collation" "DEFAULT_DDL_COLLATION" r.defaultDdlCollation,
    .keyword "comment" "COMMENT" r.comment]

/-- Changes a schema in one way. -/
structure AlterSchema where
  ifExists : Option Bool := none
  name : DatabaseObjectId := {}
  newName : Option DatabaseObjectId := none
  swapWith : Option DatabaseObjectId := none
  set : Option SchemaSet := none
  unset : Option SchemaUnset := none
  setTag : List Tag := []
  unsetTag : List SchemaObjectId := []
  enableManagedAccess : Option Bool := none
  disableManagedAccess : Option Bool := none
deriving Repr, Inhabited, DecidableEq

instance : Clause AlterSchema where
  fields r := [
    .fixed "alter" "ALTER SCHEMA",
    .keyword "if_exists" "IF EXISTS" r.ifExists,
    .required "name" none r.name,
    .identifier "new_name" "RENAME TO" r.newName,
    .identifier "swap_with" "SWAP WITH" r.swapWith,
    .keyword "set" "SET" r.set,
    .keyword "unset" "UNSET" r.unset,
    .keyword "set_tag" "SET TAG" r.setTag .bare,
    .keyword "unset_tag" "UNSET TAG" r.unsetTag .bare,
    .keyword "enable_managed_access" "ENABLE MANAGED ACCESS" r.enableManagedAccess,
    .keyword "disable_managed_access" "DISABLE MANAGED ACCESS" r.disableManagedAccess]

def AlterSchema.actions : List String :=
  ["new_name", "swap_with", "set", "unset", "set_tag", "unset_tag",
    "enable_managed_access", "disable_managed_access"]

instance : Validate AlterSchema where
  failures r :=
    validId r.name.isValid "AlterSchemaOptions" "name" ++
    exactlyOneOf "AlterSchemaOptions" AlterSchema.actions (Clause.fields r) ++
    optionalId r.newName (·.isValid) "AlterSchemaOptions" "new_name" ++
    failIf (r.newName.any fun id => id.database != r.name.database)
      (.otherDatabase "AlterSchemaOptions") ++
    optionalId r.swapWith (·.isValid) "AlterSchemaOptions" "swap_with" ++
    optionalGroup r.set "SchemaSet" ++
    optionalGroup r.unset "SchemaUnset" ++
    tagFailures r.setTag "AlterSchemaOptions" "set_tag" ++
    tagNameFailures r.unsetTag "AlterSchemaOptions" "unset_tag"

structure DropSchema where
  ifExists : Option Bool := none
  name : DatabaseObjectId := {}
  cascade : Option Bool := none
  restrict : Option Bool := none
deriving Repr, Inhabited, DecidableEq

instance : Clause DropSchema where
  fields r := [
    .fixed "drop" "DROP SCHEMA",
    .keyword "if_exists" "IF EXISTS" r.ifExists,
    .required "name" none r.name,
    .keyword "cascade" "CASCADE" r.cascade,
    .keyword "restrict" "RESTRICT" r.restrict]

instance : Validate DropSchema where
  failures r :=
    validId r.name.isValid "DropSchemaOptions" "name" ++
    failIf (r.cascade == some true && r.restrict == some true)
      (.incompatible "DropSchemaOptions" ["cascade", "restrict"])

structure ShowSchemas where
  terse : Option Bool := none
  history : Option Bool := none
  like : Option Like := none
  within : Option Within := none
  startsWith : Option String := none
  limit : Option Limit := none
deriving Repr, Inhabited, DecidableEq

instance : Clause ShowSchemas where
  fields r := [
    .fixed "show" "SHOW",
    .keyword "terse" "TERSE" r.terse,
    .fixed "schemas" "SCHEMAS",
    .keyword "history" "HISTORY" r.history,
    .keyword "like" "LIKE" r.like,
    .keyword "in_" "IN" r.within,
    .parameter "starts_with" "STARTS WITH" r.startsWith { noEquals := true, quotes := .single },
    .keyword "limit" "LIMIT" r.limit]

instance : Validate ShowSchemas := ⟨fun r => nestedOption r.within ++ nestedOption r.limit⟩

/-- Shows what bears the name, as a pattern, in the schema's database. -/
def ShowSchemas.forId (id : DatabaseObjectId) : ShowSchemas :=
  { like := some ⟨id.name⟩, within := some (.ofDatabase id.databaseId) }

structure DescribeSchema where
  name : DatabaseObjectId := {}
deriving Repr, Inhabited, DecidableEq

instance : Clause DescribeSchema where
  fields r := [
    .fixed "describe" "DESCRIBE SCHEMA",
    .required "name" none r.name]

instance : Validate DescribeSchema where
  failures r := validId r.name.isValid "DescribeSchemaOptions" "name"

end WarehouseAdmin
