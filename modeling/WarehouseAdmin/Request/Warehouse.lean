import WarehouseAdmin.Clause.Constant
import WarehouseAdmin.Request.Parts

/-!
# Requests about warehouses

A warehouse is created, altered in exactly one way at a time, dropped, shown and described. Its size,
its type, its scaling policy and its state are constants.
-/

set_option autoImplicit false

namespace WarehouseAdmin

inductive WarehouseType where
  | standard
  | snowparkOptimized
deriving DecidableEq, Repr, Inhabited

instance : Constant WarehouseType where
  family := "WarehouseType"
  all := [.standard, .snowparkOptimized]
  sql
    | .standard => "STANDARD"
    | .snowparkOptimized => "SNOWPARK-OPTIMIZED"

inductive WarehouseSize where
  | xSmall
  | small
  | medium
  | large
  | xLarge
  | xxLarge
  | xxxLarge
  | x4Large
  | x5Large
  | x6Large
deriving DecidableEq, Repr, Inhabited

instance : Constant WarehouseSize where
  family := "WarehouseSize"
  all := [.xSmall, .small, .medium, .large, .xLarge, .xxLarge, .xxxLarge, .x4Large, .x5Large,
    .x6Large]
  sql
    | .xSmall => "XSMALL"
    | .small => "SMALL"
    | .medium => "MEDIUM"
    | .large => "LARGE"
    | .xLarge => "XLARGE"
    | .xxLarge => "XXLARGE"
    | .xxxLarge => "XXXLARGE"
    | .x4Large => "X4LARGE"
    | .x5Large => "X5LARGE"
    | .x6Large => "X6LARGE"
  otherNames
    | .xSmall => ["X-SMALL"]
    | .xLarge => ["X-LARGE"]
    | .xxLarge => ["X2LARGE", "2X-LARGE"]
    | .xxxLarge => ["X3LARGE", "3X-LARGE"]
    | .x4Large => ["4X-LARGE"]
    | .x5Large => ["5X-LARGE"]
    | .x6Large => ["6X-LARGE"]
    | _ => []

/-- How a warehouse adds and removes clusters. -/
inductive ScalingPolicy where
  | standard
  | economy
deriving DecidableEq, Repr, Inhabited

instance : Constant ScalingPolicy where
  family := "ScalingPolicy"
  all := [.standard, .economy]
  sql
    | .standard => "STANDARD"
    | .economy => "ECONOMY"

inductive WarehouseState where
  | started
  | suspended
  | suspending
  | resizing
  | resuming
deriving DecidableEq, Repr, Inhabited

instance : Constant WarehouseState where
  family := "WarehouseState"
  all := [.started, .suspended, .suspending, .resizing, .resuming]
  sql
    | .started => "STARTED"
    | .suspended => "SUSPENDED"
    | .suspending => "SUSPENDING"
    | .resizing => "RESIZING"
    | .resuming => "RESUMING"

structure CreateWarehouse where
  orReplace : Option Bool := none
  ifNotExists : Option Bool := none
  name : AccountObjectId := {}
  warehouseType : Option WarehouseType := none
  warehouseSize : Option WarehouseSize := none
  maxClusterCount : Option Int := none
  minClusterCount : Option Int := none
  scalingPolicy : Option ScalingPolicy := none
  autoSuspend : Option Int := none
  autoResume : Option Bool := none
  initiallySuspended : Option Bool := none
  resourceMonitor : Option AccountObjectId := none
  comment : Option String := none
  enableQueryAcceleration : Option Bool := none
  queryAccelerationMaxScaleFactor : Option Int := none
  maxConcurrencyLevel : Option Int := none
  statementQueuedTimeoutInSeconds : Option Int := none
  statementTimeoutInSeconds : Option Int := none
  tag : List Tag := []
deriving Repr, Inhabited, DecidableEq

instance : Clause CreateWarehouse where
  fields r := [
    .fixed "create" "CREATE",
    .keyword "or_replace" "OR REPLACE" r.orReplace,
    .fixed "warehouse" "WAREHOUSE",
    .keyword "if_not_exists" "IF NOT EXISTS" r.ifNotExists,
    .required "name" none r.name,
    .parameter "warehouse_type" "WAREHOUSE_TYPE" r.warehouseType .singleQuotes,
    .parameter "warehouse_size" "WAREHOUSE_SIZE" r.warehouseSize .singleQuotes,
    .parameter "max_cluster_count" "MAX_CLUSTER_COUNT" r.maxClusterCount,
    .parameter "min_cluster_count" "MIN_CLUSTER_COUNT" r.minClusterCount,
    .parameter "scaling_policy" "SCALING_POLICY" r.scalingPolicy .singleQuotes,
    .parameter "auto_suspend" "AUTO_SUSPEND" r.autoSuspend,
    .parameter "auto_resume" "AUTO_RESUME" r.autoResume,
    .parameter "initially_suspended" "INITIALLY_SUSPENDED" r.initiallySuspended,
    .identifier "resource_monitor" "RESOURCE_MONITOR" r.resourceMonitor { equals := true },
    .parameter "comment" "COMMENT" r.comment .singleQuotes,
    .parameter "enable_query_acceleration" "ENABLE_QUERY_ACCELERATION" r.enableQueryAcceleration,
    .parameter "query_acceleration_max_scale_factor" "QUERY_ACCELERATION_MAX_SCALE_FACTOR"
      r.queryAccelerationMaxScaleFactor,
    .parameter "max_concurrency_level" "MAX_CONCURRENCY_LEVEL" r.maxConcurrencyLevel,
    .parameter "statement_queued_timeout_in_seconds" "STATEMENT_QUEUED_TIMEOUT_IN_SECONDS"
      r.statementQueuedTimeoutInSeconds,
    .parameter "statement_timeout_in_seconds" "STATEMENT_TIMEOUT_IN_SECONDS"
      r.statementTimeoutInSeconds,
    .keyword "tag" "WITH TAG" r.tag .inParentheses]

/-- The least number of clusters must not exceed the greatest. -/
def clusterFailures (request : String) (min max : Option Int) : List Error :=
  match min, max with
  | some min, some max => failIf (decide (max < min)) (.clusterCounts request min max)
  | _, _ => []

instance : Validate CreateWarehouse where
  failures r :=
    validId r.name.isValid "CreateWarehouseOptions" "name" ++
    failIf (r.orReplace == some true && r.ifNotExists == some true)
      (.incompatible "CreateWarehouseOptions" ["or_replace", "if_not_exists"]) ++
    optionalId r.resourceMonitor (·.isValid) "CreateWarehouseOptions" "resource_monitor" ++
    clusterFailures "CreateWarehouseOptions" r.minClusterCount r.maxClusterCount ++
    tagFailures r.tag "CreateWarehouseOptions" "tag"

structure WarehouseSet where
  warehouseType : Option WarehouseType := none
  warehouseSize : Option WarehouseSize := none
  waitForCompletion : Option Bool := none
  maxClusterCount : Option Int := none
  minClusterCount : Option Int := none
  scalingPolicy : Option ScalingPolicy := none
  autoSuspend : Option Int := none
  autoResume : Option Bool := none
  resourceMonitor : Option AccountObjectId := none
  comment : Option String := none
  enableQueryAcceleration : Option Bool := none
  queryAccelerationMaxScaleFactor : Option Int := none
  maxConcurrencyLevel : Option Int := none
  statementQueuedTimeoutInSeconds : Option Int := none
  statementTimeoutInSeconds : Option Int := none
deriving Repr, Inhabited, DecidableEq

instance : Clause WarehouseSet where
  fields r := [
    .parameter "warehouse_type" "WAREHOUSE_TYPE" r.warehouseType .singleQuotes,
    .parameter "warehouse_size" "WAREHOUSE_SIZE" r.warehouseSize .singleQuotes,
    .parameter "wait_for_completion" "WAIT_FOR_COMPLETION" r.waitForCompletion,
    .parameter "max_cluster_count" "MAX_CLUSTER_COUNT" r.maxClusterCount,
    .parameter "min_cluster_count" "MIN_CLUSTER_COUNT" r.minClusterCount,
    .parameter "scaling_policy" "SCALING_POLICY" r.scalingPolicy .singleQuotes,
    .parameter "auto_suspend" "AUTO_SUSPEND" r.autoSuspend,
    .parameter "auto_resume" "AUTO_RESUME" r.autoResume,
    .identifier "resource_monitor" "RESOURCE_MONITOR" r.resourceMonitor { equals := true },
    .parameter "comment" "COMMENT" r.comment .singleQuotes,
    .parameter "enable_query_acceleration" "ENABLE_QUERY_ACCELERATION" r.enableQueryAcceleration,
    .parameter "query_acceleration_max_scale_factor" "QUERY_ACCELERATION_MAX_SCALE_FACTOR"
      r.queryAccelerationMaxScaleFactor,
    .parameter "max_concurrency_level" "MAX_CONCURRENCY_LEVEL" r.maxConcurrencyLevel,
    .parameter "statement_queued_timeout_in_seconds" "STATEMENT_QUEUED_TIMEOUT_IN_SECONDS"
      r.statementQueuedTimeoutInSeconds,
    .parameter "statement_timeout_in_seconds" "STATEMENT_TIMEOUT_IN_SECONDS"
      r.statementTimeoutInSeconds]

instance : Validate WarehouseSet where
  failures r :=
    failIf (!isGiven r) (.noProperty "WarehouseSet") ++
    failIf (r.waitForCompletion.isSome && r.warehouseSize.isNone)
      (.waitWithoutSize "WarehouseSet") ++
    optionalId r.resourceMonitor (·.isValid) "WarehouseSet" "resource_monitor" ++
    clusterFailures "WarehouseSet" r.minClusterCount r.maxClusterCount

/-- Properties of a warehouse that go back to their defaults. -/
structure WarehouseUnset where
  warehouseType : Option Bool := none
  warehouseSize : Option Bool := none
  waitForCompletion : Option Bool := none
  maxClusterCount : Option Bool := none
  minClusterCount : Option Bool := none
  scalingPolicy : Option Bool := none
  autoSuspend : Option Bool := none
  autoResume : Option Bool := none
  resourceMonitor : Option Bool := none
  comment : Option Bool := none
  enableQueryAcceleration : Option Bool := none
  queryAccelerationMaxScaleFactor : Option Bool := none
  maxConcurrencyLevel : Option Bool := none
  statementQueuedTimeoutInSeconds : Option Bool := none
  statementTimeoutInSeconds : Option Bool := none
deriving Repr, Inhabited, DecidableEq

instance : Clause WarehouseUnset where
  fields r := [
    .keyword "warehouse_type" "WAREHOUSE_TYPE" r.warehouseType,
    .keyword "warehouse_size" "WAREHOUSE_SIZE" r.warehouseSize,
    .keyword "wait_for_completion" "WAIT_FOR_COMPLETION" r.waitForCompletion,
    .keyword "max_cluster_count" "MAX_CLUSTER_COUNT" r.maxClusterCount,
    .keyword "min_cluster_count" "MIN_CLUSTER_COUNT" r.minClusterCount,
    .keyword "scaling_policy" "SCALING_POLICY" r.scalingPolicy,
    .keyword "auto_suspend" "AUTO_SUSPEND" r.autoSuspend,
    .keyword "auto_resume" "AUTO_RESUME" r.autoResume,
    .keyword "resource_monitor" "RESOURCE_MONITOR" r.resourceMonitor,
    .keyword "comment" "COMMENT" r.comment,
    .keyword "enable_query_acceleration" "ENABLE_QUERY_ACCELERATION" r.enableQueryAcceleration,
    .keyword "query_acceleration_max_scale_factor" "QUERY_ACCELERATION_MAX_SCALE_FACTOR"
      r.queryAccelerationMaxScaleFactor,
    .keyword "max_concurrency_level" "MAX_CONCURRENCY_LEVEL" r.maxConcurrencyLevel,
    .keyword "statement_queued_timeout_in_seconds" "STATEMENT_QUEUED_TIMEOUT_IN_SECONDS"
      r.statementQueuedTimeoutInSeconds,
    .keyword "statement_timeout_in_seconds" "STATEMENT_TIMEOUT_IN_SECONDS"
      r.statementTimeoutInSeconds]

/-- Changes a warehouse in one way. -/
structure AlterWarehouse where
  ifExists : Option Bool := none
  name : AccountObjectId := {}
  suspend : Option Bool := none
  resume : Option Bool := none
  ifSuspended : Option Bool := none
  abortAllQueries : Option Bool := none
  newName : Option AccountObjectId := none
  set : Option WarehouseSet := none
  unset : Option WarehouseUnset := none
  setTag : List Tag := []
  unsetTag : List SchemaObjectId := []
deriving Repr, Inhabited, DecidableEq

instance : Clause AlterWarehouse where
  fields r := [
    .fixed "alter" "ALTER WAREHOUSE",
    .keyword "if_exists" "IF EXISTS" r.ifExists,
    .required "name" none r.name,
    .keyword "suspend" "SUSPEND" r.suspend,
    .keyword "resume" "RESUME" r.resume,
    .keyword "if_suspended" "IF SUSPENDED" r.ifSuspended,
    .keyword "abort_all_queries" "ABORT ALL QUERIES" r.abortAllQueries,
    .identifier "new_name" "RENAME TO" r.newName,
    .keyword "set" "SET" r.set,
    .keyword "unset" "UNSET" r.unset,
    .keyword "set_tag" "SET TAG" r.setTag .bare,
    .keyword "unset_tag" "UNSET TAG" r.unsetTag .bare]

def AlterWarehouse.actions : List String :=
  ["suspend", "resume", "abort_all_queries", "new_name", "set", "unset", "set_tag", "unset_tag"]

instance : Validate AlterWarehouse where
  failures r :=
    validId r.name.isValid "AlterWarehouseOptions" "name" ++
    exactlyOneOf "AlterWarehouseOptions" AlterWarehouse.actions (Clause.fields r) ++
    failIf (r.ifSuspended == some true && r.resume != some true)
      (.ifSuspendedWithoutResume "AlterWarehouseOptions") ++
    optionalId r.newName (·.isValid) "AlterWarehouseOptions" "new_name" ++
    nestedOption r.set ++
    optionalGroup r.unset "WarehouseUnset" ++
    tagFailures r.setTag "AlterWarehouseOptions" "set_tag" ++
    tagNameFailures r.unsetTag "AlterWarehouseOptions" "unset_tag"

structure DropWarehouse where
  ifExists : Option Bool := none
  name : AccountObjectId := {}
deriving Repr, Inhabited, DecidableEq

instance : Clause DropWarehouse where
  fields r := [
    .fixed "drop" "DROP WAREHOUSE",
    .keyword "if_exists" "IF EXISTS" r.ifExists,
    .required "name" none r.name]

instance : Validate DropWarehouse where
  failures r := validId r.name.isValid "DropWarehouseOptions" "name"

structure ShowWarehouses where
  like : Option Like := none
deriving Repr, Inhabited, DecidableEq

instance : Clause ShowWarehouses where
  fields r := [
    .fixed "show" "SHOW WAREHOUSES",
    .keyword "like" "LIKE" r.like]

instance : Validate ShowWarehouses := ⟨fun _ => []⟩

/-- Shows what bears the name, as a pattern. -/
def ShowWarehouses.forId (id : AccountObjectId) : ShowWarehouses := { like := some ⟨id.name⟩ }

structure DescribeWarehouse where
  name : AccountObjectId := {}
deriving Repr, Inhabited, DecidableEq

instance : Clause DescribeWarehouse where
  fields r := [
    .fixed "describe" "DESCRIBE WAREHOUSE",
    .required "name" none r.name]

instance : Validate DescribeWarehouse where
  failures r := validId r.name.isValid "DescribeWarehouseOptions" "name"

end WarehouseAdmin
