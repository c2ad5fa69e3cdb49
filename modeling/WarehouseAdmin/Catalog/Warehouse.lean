import WarehouseAdmin.Catalog.Basic
import WarehouseAdmin.Request.Warehouse

/-!
# Warehouses as listed

Columns that an older server leaves out are read as absent. A constant that is not known is absent
too, and so is a text that only says null.
-/

set_option autoImplicit false

namespace WarehouseAdmin

open Time

/-- The columns of a listed warehouse. -/
structure WarehouseRow where
  name : String
  state : Option String := none
  warehouseType : Option String := none
  size : Option String := none
  minClusterCount : Option Int := none
  maxClusterCount : Option Int := none
  startedClusters : Option Int := none
  running : Option Int := none
  queued : Option Int := none
  isDefault : Option Bool := none
  isCurrent : Option Bool := none
  autoSuspend : Option Int := none
  autoResume : Option Bool := none
  createdOn : Option Instant := none
  resumedOn : Option Instant := none
  updatedOn : Option Instant := none
  owner : Option String := none
  comment : Option String := none
  enableQueryAcceleration : Option Bool := none
  queryAccelerationMaxScaleFactor : Option Int := none
  resourceMonitor : Option String := none
  scalingPolicy : Option String := none
  ownerRoleType : Option String := none
deriving DecidableEq, Repr

instance : OfRow WarehouseRow where
  ofRow r := do
    let name ← r.decode String "name"
    let state ← r.decode? String "state"
    let warehouseType ← r.decode? String "type"
    let size ← r.decode? String "size"
    let minClusterCount ← r.decode? Int "min_cluster_count"
    let maxClusterCount ← r.decode? Int "max_cluster_count"
    let startedClusters ← r.decode? Int "started_clusters"
    let running ← r.decode? Int "running"
    let queued ← r.decode? Int "queued"
    let isDefault ← r.decode? Bool "is_default"
    let isCurrent ← r.decode? Bool "is_current"
    let autoSuspend ← r.decode? Int "auto_suspend"
    let autoResume ← r.decode? Bool "auto_resume"
    let createdOn ← r.decode? Instant "created_on"
    let resumedOn ← r.decode? Instant "resumed_on"
    let updatedOn ← r.decode? Instant "updated_on"
    let owner ← r.decode? String "owner"
    let comment ← r.decode? String "comment"
    let enableQueryAcceleration ← r.decode? Bool "enable_query_acceleration"
    let queryAccelerationMaxScaleFactor ← r.decode? Int "query_acceleration_max_scale_factor"
    let resourceMonitor ← r.decode? String "resource_monitor"
    let scalingPolicy ← r.decode? String "scaling_policy"
    let ownerRoleType ← r.decode? String "owner_role_type"
    return {
      name, state, warehouseType, size, minClusterCount, maxClusterCount, startedClusters, running,
      queued, isDefault, isCurrent, autoSuspend, autoResume, createdOn, resumedOn, updatedOn, owner,
      comment, enableQueryAcceleration, queryAccelerationMaxScaleFactor, resourceMonitor,
      scalingPolicy, ownerRoleType }

structure Warehouse where
  name : String
  state : Option WarehouseState := none
  warehouseType : Option WarehouseType := none
  size : Option WarehouseSize := none
  minClusterCount : Option Int := none
  maxClusterCount : Option Int := none
  startedClusters : Option Int := none
  running : Option Int := none
  queued : Option Int := none
  isDefault : Bool := false
  isCurrent : Bool := false
  /-- The seconds of idleness after which the warehouse is suspended, if it ever is. -/
  autoSuspend : Option Int := none
  autoResume : Bool := false
  createdOn : Option Instant := none
  resumedOn : Option Instant := none
  updatedOn : Option Instant := none
  owner : Option String := none
  comment : Option String := none
  enableQueryAcceleration : Bool := false
  queryAccelerationMaxScaleFactor : Option Int := none
  resourceMonitor : Option String := none
  scalingPolicy : Option ScalingPolicy := none
  ownerRoleType : Option String := none
deriving DecidableEq, Repr

def Warehouse.ofColumns (row : WarehouseRow) : Warehouse :=
  { name := row.name
    state := row.state.bind Constant.read?
    warehouseType := row.warehouseType.bind Constant.read?
    size := row.size.bind Constant.read?
    minClusterCount := row.minClusterCount
    maxClusterCount := row.maxClusterCount
    startedClusters := row.startedClusters
    running := row.running
    queued := row.queued
    isDefault := row.isDefault.getD false
    isCurrent := row.isCurrent.getD false
    autoSuspend := row.autoSuspend.filter (0 < ·)
    autoResume := row.autoResume.getD false
    createdOn := row.createdOn
    resumedOn := row.resumedOn
    updatedOn := row.updatedOn
    owner := nonNull row.owner
    comment := nonNull row.comment
    enableQueryAcceleration := row.enableQueryAcceleration.getD false
    queryAccelerationMaxScaleFactor := row.queryAccelerationMaxScaleFactor
    resourceMonitor := nonNull row.resourceMonitor
    scalingPolicy := row.scalingPolicy.bind Constant.read?
    ownerRoleType := nonNull row.ownerRoleType }

instance : OfRow Warehouse where
  ofRow r := (OfRow.ofRow r).map Warehouse.ofColumns

instance : Identified Warehouse AccountObjectId where
  id w := ⟨w.name⟩
  qualifiedName := AccountObjectId.qualifiedName

end WarehouseAdmin
