import WarehouseAdmin.Session.Safe

/-!
# Actions

Everything that a client can be asked to do about objects, as data. Each kind of object has the same
tasks; they differ in their requests, in their identifiers and in what a description of an object
is. Functions are neither created nor altered.
-/

set_option autoImplicit false

namespace WarehouseAdmin

/-- A task about objects of one kind. -/
inductive Task (Id Create Alter Drop Show : Type) where
  | create (id : Id) (request : Create)
  | alter (id : Id) (request : Alter)
  | drop (id : Id) (request : Drop)
  | list (request : Show)
  | find (id : Id)
  | describe (id : Id)
  | findSafely (id : Id)
  | dropSafely (id : Id) (request : Drop)

/-- What a task comes to, for objects `α` that a description shows as `β`. -/
inductive TaskResult (α β : Type) where
  | done
  | objects (as : List α)
  | object (a : α)
  | description (b : β)

/-- The kinds of objects, each with a task. -/
inductive Action where
  | warehouse
    (task : Task AccountObjectId CreateWarehouse AlterWarehouse DropWarehouse ShowWarehouses)
  | database (task : Task AccountObjectId CreateDatabase AlterDatabase DropDatabase ShowDatabases)
  | schema (task : Task DatabaseObjectId CreateSchema AlterSchema DropSchema ShowSchemas)
  | alert (task : Task SchemaObjectId CreateAlert AlterAlert DropAlert ShowAlerts)
  | function (task : Task FunctionId Empty Empty DropFunction ShowFunctions)

inductive ActionResult where
  | warehouse (r : TaskResult Warehouse (List ObjectDetail))
  | database (r : TaskResult Database (List ObjectDetail))
  | schema (r : TaskResult Schema (List ObjectDetail))
  | alert (r : TaskResult Alert Alert)
  | function (r : TaskResult Function (List Property))

instance : Clause Empty := ⟨nofun⟩

instance : Validate Empty := ⟨nofun⟩

instance : Named Empty FunctionId := ⟨fun _ r => r⟩

namespace Client

/-- Does a task. The objects of the kind are identified by `identify` and described by `describe`. -/
def doTask {α β Id Create Alter Drop Show : Type} [OfRow α] [Identified α Id] [Listed α Id Show]
    [DecidableEq Id] [Clause Create] [Validate Create] [Named Create Id] [Clause Alter]
    [Validate Alter] [Named Alter Id] [Clause Drop] [Validate Drop] [Named Drop Id] [Clause Show]
    [Validate Show] (c : Client) (ctx : Context) (identify : Id → Identifier)
    (describe : Id → Operation β) :
    Task Id Create Alter Drop Show → Operation (TaskResult α β)
  | .create id request => do c.performOn ctx id request; return .done
  | .alter id request => do c.performOn ctx id request; return .done
  | .drop id request => do c.performOn ctx id request; return .done
  | .list request => return .objects (← c.list α ctx request)
  | .find id => return .object (← c.find α ctx id)
  | .describe id => return .description (← describe id)
  | .findSafely id => return .object (← c.safely ctx (identify id) (c.find α ctx id))
  | .dropSafely id request => do
    c.dropSafely ctx (identify id) (c.performOn ctx id request)
    return .done

def act (c : Client) (ctx : Context) : Action → Operation ActionResult
  | .warehouse task =>
    return .warehouse (← c.doTask ctx .account (c.describeWarehouse ctx) task)
  | .database task => return .database (← c.doTask ctx .account (c.describeDatabase ctx) task)
  | .schema task => return .schema (← c.doTask ctx .database (c.describeSchema ctx) task)
  | .alert task => return .alert (← c.doTask ctx .schema (c.describeAlert ctx) task)
  | .function task => return .function (← c.doTask ctx .function (c.describeFunction ctx) task)

end Client

end WarehouseAdmin
