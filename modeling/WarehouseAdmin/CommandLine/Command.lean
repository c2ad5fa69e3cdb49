import WarehouseAdmin.Ident.Reader
import WarehouseAdmin.Request.Warehouse
import WarehouseAdmin.Request.Database
import WarehouseAdmin.Request.Schema
import WarehouseAdmin.Request.Alert
import WarehouseAdmin.Request.Function

/-!
# Commands

A command stands for a request, whose statement it renders, or asks how an identifier is read. A
change of a warehouse names the properties that go back to their defaults, in any case and order and
as often as one likes; an unknown name is reported before the request is checked.
-/

set_option autoImplicit false

namespace WarehouseAdmin.CommandLine

/-- A change of a warehouse as it is asked for. -/
structure WarehouseChange where
  name : AccountObjectId
  suspend : Option Bool := none
  resume : Option Bool := none
  ifSuspended : Option Bool := none
  abortAllQueries : Option Bool := none
  newName : Option AccountObjectId := none
  set : WarehouseSet := {}
  /-- The names of properties that go back to their defaults. -/
  unset : List String := []
deriving DecidableEq, Repr

/-- Lets a property go back to its default, if there is a property of this name. -/
def resetProperty? (name : String) (u : WarehouseUnset) : Option WarehouseUnset :=
  match name with
  | "warehouse_type" => some { u with warehouseType := some true }
  | "warehouse_size" => some { u with warehouseSize := some true }
  | "max_cluster_count" => some { u with maxClusterCount := some true }
  | "min_cluster_count" => some { u with minClusterCount := some true }
  | "scaling_policy" => some { u with scalingPolicy := some true }
  | "auto_suspend" => some { u with autoSuspend := some true }
  | "auto_resume" => some { u with autoResume := some true }
  | "resource_monitor" => some { u with resourceMonitor := some true }
  | "comment" => some { u with comment := some true }
  | _ => none

/-- Lets the named properties go back to their defaults, up to the first unknown name. -/
def resetProperties (u : WarehouseUnset) : List String → Except Error WarehouseUnset
  | [] => .ok u
  | name :: rest =>
    match resetProperty? (Text.lower name) u with
    | some u => resetProperties u rest
    | none => .error (.validation (.unknownProperty (Text.lower name)))

/-- The properties that go back to their defaults, if any are named. -/
def unsetOf (names : List String) : Except Error (Option WarehouseUnset) :=
  if names.isEmpty then .ok none else (resetProperties {} names).map some

/-- The request that a change stands for. Properties that are set to nothing are left out. -/
def WarehouseChange.request (c : WarehouseChange) : Except Error AlterWarehouse :=
  (unsetOf c.unset).map fun unset => {
    name := c.name
    suspend := c.suspend
    resume := c.resume
    ifSuspended := c.ifSuspended
    abortAllQueries := c.abortAllQueries
    newName := c.newName
    set := if isGiven c.set then some c.set else none
    unset }

inductive Command where
  | createWarehouse (r : CreateWarehouse)
  | alterWarehouse (c : WarehouseChange)
  | dropWarehouse (r : DropWarehouse)
  | showWarehouses (r : ShowWarehouses)
  | describeWarehouse (r : DescribeWarehouse)
  | createDatabase (r : CreateDatabase)
  | alterDatabase (r : AlterDatabase)
  | dropDatabase (r : DropDatabase)
  | showDatabases (r : ShowDatabases)
  | createSchema (r : CreateSchema)
  | dropSchema (r : DropSchema)
  | showSchemas (r : ShowSchemas)
  | createAlert (r : CreateAlert)
  | alterAlert (r : AlterAlert)
  | dropAlert (r : DropAlert)
  | showAlerts (r : ShowAlerts)
  | dropFunction (r : DropFunction)
  | describeFunction (r : DescribeFunction)
  | showFunctions (r : ShowFunctions)
  /-- Asks how an identifier is read. -/
  | identifier (input : String)
deriving DecidableEq, Repr

/-- A statement, and whether rows come back for it. -/
structure Statement where
  sql : String
  returnsRows : Bool
deriving DecidableEq, Repr

/-- The statement of a request that changes something. -/
def changing {R : Type} [Clause R] [Validate R] (request : R) : Except Error Statement :=
  (render request).map (⟨·, false⟩)

/-- The statement of a request that shows something. -/
def showing {R : Type} [Clause R] [Validate R] (request : R) : Except Error Statement :=
  (render request).map (⟨·, true⟩)

/-- The statement of a command, if it stands for one. -/
def Command.statement? : Command → Except Error (Option Statement)
  | .createWarehouse r => (changing r).map some
  | .alterWarehouse c =>
    match c.request with
    | .ok r => (changing r).map some
    | .error e => .error e
  | .dropWarehouse r => (changing r).map some
  | .showWarehouses r => (showing r).map some
  | .describeWarehouse r => (showing r).map some
  | .createDatabase r => (changing r).map some
  | .alterDatabase r => (changing r).map some
  | .dropDatabase r => (changing r).map some
  | .showDatabases r => (showing r).map some
  | .createSchema r => (changing r).map some
  | .dropSchema r => (changing r).map some
  | .showSchemas r => (showing r).map some
  | .createAlert r => (changing r).map some
  | .alterAlert r => (changing r).map some
  | .dropAlert r => (changing r).map some
  | .showAlerts r => (showing r).map some
  | .dropFunction r => (changing r).map some
  | .describeFunction r => (showing r).map some
  | .showFunctions r => (showing r).map some
  | .identifier _ => .ok none

/-! ## How an identifier is read -/

/-- The identifier that a text names. With a parenthesis it is a function's; otherwise it is read
with as many parts as it can be, and an error is that of a text with one part. -/
def readIdentifier (input : String) : Except Error Identifier :=
  if input.toList.contains '(' then (Identifier.read .function input).mapError .invalidIdentifier
  else
    match Identifier.read .schema input, Identifier.read .database input with
    | .ok id, _ => .ok id
    | _, .ok id => .ok id
    | _, _ => (Identifier.read .account input).mapError .invalidIdentifier

def levelName : Level → String
  | .account => "account object"
  | .database => "database object"
  | .schema => "schema object"
  | .function => "function"

/-- A line about what contains an object. -/
def ancestorLine : Ancestor → String
  | .schema id => "  in schema " ++ id.qualifiedName
  | .database id => "  in database " ++ id.qualifiedName

/-- Describes an identifier: a line for the object, and one for each of its containers. -/
def identifierLines (id : Identifier) : List String :=
  (levelName id.level ++ " " ++ id.qualifiedName) :: id.ancestors.map ancestorLine

/-- Describes the identifier that a text names. -/
def describeIdentifier (input : String) : Except Error (List String) :=
  (readIdentifier input).map identifierLines

end WarehouseAdmin.CommandLine
