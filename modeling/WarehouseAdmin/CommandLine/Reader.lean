import WarehouseAdmin.CommandLine.Arguments
import WarehouseAdmin.CommandLine.Command

/-!
# Reading a command

The first two arguments name the kind of object and what is done with it; what follows is read as
that command's options and positional arguments. Identifiers, constants and numbers are read here,
so that a command that is read has no malformed part.
-/

set_option autoImplicit false

namespace WarehouseAdmin.CommandLine

open WarehouseAdmin.Text (readInt32)

/-! ## Values -/

def anyText (s : String) : Option String := some s

/-- The words `true` and `false`. -/
def readFlag (s : String) : Option Bool :=
  if s = "true" then some true else if s = "false" then some false else none

def accountId (s : String) : Option AccountObjectId := (AccountObjectId.read s).toOption

def databaseId (s : String) : Option DatabaseObjectId := (DatabaseObjectId.read s).toOption

def schemaId (s : String) : Option SchemaObjectId := (SchemaObjectId.read s).toOption

def functionId (s : String) : Option FunctionId := (FunctionId.read s).toOption

def pattern (s : String) : Option Like := some ⟨s⟩

/-! ## Commands about warehouses -/

def createWarehouse (args : List String) : Option Command := do
  let a ← Usage.read
    ⟨[("or-replace", .nothing), ("if-not-exists", .nothing), ("type", .value), ("size", .value),
      ("min-cluster-count", .value), ("max-cluster-count", .value), ("auto-suspend", .value),
      ("auto-resume", .value), ("initially-suspended", .value), ("comment", .value)], 1⟩ args
  return .createWarehouse {
    name := ← a.positional 0 accountId
    orReplace := a.flag "or-replace"
    ifNotExists := a.flag "if-not-exists"
    warehouseType := ← a.optional "type" Constant.read?
    warehouseSize := ← a.optional "size" Constant.read?
    minClusterCount := ← a.optional "min-cluster-count" readInt32
    maxClusterCount := ← a.optional "max-cluster-count" readInt32
    autoSuspend := ← a.optional "auto-suspend" readInt32
    autoResume := ← a.optional "auto-resume" readFlag
    initiallySuspended := ← a.optional "initially-suspended" readFlag
    comment := ← a.optional "comment" anyText }

def alterWarehouse (args : List String) : Option Command := do
  let a ← Usage.read
    ⟨[("suspend", .nothing), ("resume", .nothing), ("if-suspended", .nothing),
      ("abort-all-queries", .nothing), ("rename", .value), ("set-size", .value),
      ("set-auto-suspend", .value), ("set-auto-resume", .value), ("set-comment", .value),
      ("unset", .values)], 1⟩ args
  guard (!a.has "if-suspended" || a.has "resume")
  return .alterWarehouse {
    name := ← a.positional 0 accountId
    suspend := a.flag "suspend"
    resume := a.flag "resume"
    ifSuspended := a.flag "if-suspended"
    abortAllQueries := a.flag "abort-all-queries"
    newName := ← a.optional "rename" accountId
    set := {
      warehouseSize := ← a.optional "set-size" Constant.read?
      autoSuspend := ← a.optional "set-auto-suspend" readInt32
      autoResume := ← a.optional "set-auto-resume" readFlag
      comment := ← a.optional "set-comment" anyText }
    unset := a.all "unset" }

def dropWarehouse (args : List String) : Option Command := do
  let a ← Usage.read ⟨[("if-exists", .nothing)], 1⟩ args
  return .dropWarehouse { name := ← a.positional 0 accountId, ifExists := a.flag "if-exists" }

def showWarehouses (args : List String) : Option Command := do
  let a ← Usage.read ⟨[("like", .value)], 0⟩ args
  return .showWarehouses { like := ← a.optional "like" pattern }

def describeWarehouse (args : List String) : Option Command := do
  let a ← Usage.read ⟨[], 1⟩ args
  return .describeWarehouse { name := ← a.positional 0 accountId }

/-! ## Commands about databases -/

def createDatabase (args : List String) : Option Command := do
  let a ← Usage.read
    ⟨[("or-replace", .nothing), ("if-not-exists", .nothing), ("transient", .nothing),
      ("clone", .value), ("data-retention-time-in-days", .value), ("comment", .value)], 1⟩ args
  return .createDatabase {
    name := ← a.positional 0 accountId
    orReplace := a.flag "or-replace"
    ifNotExists := a.flag "if-not-exists"
    transient := a.flag "transient"
    clone := (← a.optional "clone" accountId).map fun source => { source }
    dataRetentionTimeInDays := ← a.optional "data-retention-time-in-days" readInt32
    comment := ← a.optional "comment" anyText }

def renameDatabase (args : List String) : Option Command := do
  let a ← Usage.read ⟨[], 2⟩ args
  return .alterDatabase {
    name := ← a.positional 0 accountId
    newName := some (← a.positional 1 accountId) }

def dropDatabase (args : List String) : Option Command := do
  let a ← Usage.read
    ⟨[("if-exists", .nothing), ("cascade", .nothing), ("restrict", .nothing)], 1⟩ args
  guard !(a.has "cascade" && a.has "restrict")
  return .dropDatabase {
    name := ← a.positional 0 accountId
    ifExists := a.flag "if-exists"
    cascade := a.flag "cascade"
    restrict := a.flag "restrict" }

def showDatabases (args : List String) : Option Command := do
  let a ← Usage.read
    ⟨[("terse", .nothing), ("like", .value), ("starts-with", .value), ("limit", .value)], 0⟩ args
  return .showDatabases {
    terse := a.flag "terse"
    like := ← a.optional "like" pattern
    startsWith := ← a.optional "starts-with" anyText
    limit := (← a.optional "limit" readInt32).map fun rows => { rows := some rows } }

/-! ## Commands about schemas -/

def createSchema (args : List String) : Option Command := do
  let a ← Usage.read
    ⟨[("or-replace", .nothing), ("if-not-exists", .nothing), ("transient", .nothing),
      ("managed-access", .nothing), ("comment", .value)], 1⟩ args
  return .createSchema {
    name := ← a.positional 0 databaseId
    orReplace := a.flag "or-replace"
    ifNotExists := a.flag "if-not-exists"
    transient := a.flag "transient"
    withManagedAccess := a.flag "managed-access"
    comment := ← a.optional "comment" anyText }

def dropSchema (args : List String) : Option Command := do
  let a ← Usage.read
    ⟨[("if-exists", .nothing), ("cascade", .nothing), ("restrict", .nothing)], 1⟩ args
  guard !(a.has "cascade" && a.has "restrict")
  return .dropSchema {
    name := ← a.positional 0 databaseId
    ifExists := a.flag "if-exists"
    cascade := a.flag "cascade"
    restrict := a.flag "restrict" }

def showSchemas (args : List String) : Option Command := do
  let a ← Usage.read ⟨[("like", .value)], 1⟩ args
  return .showSchemas {
    within := some (.ofDatabase (← a.positional 0 accountId))
    like := ← a.optional "like" pattern }

/-! ## Commands about alerts -/

def createAlert (args : List String) : Option Command := do
  let a ← Usage.read
    ⟨[("warehouse", .value), ("schedule", .value), ("condition", .value), ("action", .value),
      ("comment", .value), ("or-replace", .nothing)], 1⟩ args
  return .createAlert {
    name := ← a.positional 0 schemaId
    orReplace := a.flag "or-replace"
    warehouse := ← a.required "warehouse" accountId
    schedule := ← a.required "schedule" anyText
    condition := ⟨← a.required "condition" anyText⟩
    action := ← a.required "action" anyText
    comment := ← a.optional "comment" anyText }

def operateAlert (operation : AlertOperation) (args : List String) : Option Command := do
  let a ← Usage.read ⟨[], 1⟩ args
  return .alterAlert { name := ← a.positional 0 schemaId, operation := some operation }

def dropAlert (args : List String) : Option Command := do
  let a ← Usage.read ⟨[("if-exists", .nothing)], 1⟩ args
  return .dropAlert { name := ← a.positional 0 schemaId, ifExists := a.flag "if-exists" }

def showAlert (args : List String) : Option Command := do
  let a ← Usage.read ⟨[], 1⟩ args
  return .showAlerts (ShowAlerts.forId (← a.positional 0 schemaId))

/-! ## Commands about functions -/

def dropFunction (args : List String) : Option Command := do
  let a ← Usage.read ⟨[("if-exists", .nothing)], 1⟩ args
  return .dropFunction { name := ← a.positional 0 functionId, ifExists := a.flag "if-exists" }

def describeFunction (args : List String) : Option Command := do
  let a ← Usage.read ⟨[], 1⟩ args
  return .describeFunction { name := ← a.positional 0 functionId }

def showFunctions (args : List String) : Option Command := do
  let a ← Usage.read ⟨[], 1⟩ args
  return .showFunctions { within := some (.ofSchema (← a.positional 0 databaseId)) }

/-! ## All commands -/

def identifier (args : List String) : Option Command := do
  let a ← Usage.read ⟨[], 1⟩ args
  return .identifier (← a.positional 0 anyText)

/-- The readers of commands, by their names. -/
def commands : List (List String × (List String → Option Command)) := [
  (["warehouse", "create"], createWarehouse),
  (["warehouse", "alter"], alterWarehouse),
  (["warehouse", "drop"], dropWarehouse),
  (["warehouse", "show"], showWarehouses),
  (["warehouse", "describe"], describeWarehouse),
  (["database", "create"], createDatabase),
  (["database", "rename"], renameDatabase),
  (["database", "drop"], dropDatabase),
  (["database", "show"], showDatabases),
  (["schema", "create"], createSchema),
  (["schema", "drop"], dropSchema),
  (["schema", "show"], showSchemas),
  (["alert", "create"], createAlert),
  (["alert", "resume"], operateAlert .resume),
  (["alert", "suspend"], operateAlert .suspend),
  (["alert", "drop"], dropAlert),
  (["alert", "show"], showAlert),
  (["function", "drop"], dropFunction),
  (["function", "describe"], describeFunction),
  (["function", "show"], showFunctions)]

def Command.read : List String → Option Command
  | "ident" :: args => CommandLine.identifier args
  | kind :: verb :: args => (commands.lookup [kind, verb]).bind (· args)
  | _ => none

end WarehouseAdmin.CommandLine
