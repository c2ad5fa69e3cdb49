import WarehouseAdmin.Catalog.Warehouse
import WarehouseAdmin.Catalog.Database
import WarehouseAdmin.Catalog.Schema
import WarehouseAdmin.Catalog.Alert
import WarehouseAdmin.Catalog.Function
import WarehouseAdmin.Session.Client

/-!
# Operations on objects

What is asked about one object names it by its identifier, whatever name the request carried before.
An object is found by listing what its identifier can mean as a pattern, and picking from the list
the one that really bears it.
-/

set_option autoImplicit false

namespace WarehouseAdmin

/-- Requests about one object. -/
class Named (R : Type) (Id : outParam Type) where
  /-- The request, about the object that the identifier names. -/
  withName : Id → R → R

export Named (withName)

instance : Named CreateWarehouse AccountObjectId := ⟨fun id r => { r with name := id }⟩

instance : Named AlterWarehouse AccountObjectId := ⟨fun id r => { r with name := id }⟩

instance : Named DropWarehouse AccountObjectId := ⟨fun id r => { r with name := id }⟩

instance : Named CreateDatabase AccountObjectId := ⟨fun id r => { r with name := id }⟩

instance : Named AlterDatabase AccountObjectId := ⟨fun id r => { r with name := id }⟩

instance : Named DropDatabase AccountObjectId := ⟨fun id r => { r with name := id }⟩

instance : Named CreateSchema DatabaseObjectId := ⟨fun id r => { r with name := id }⟩

instance : Named AlterSchema DatabaseObjectId := ⟨fun id r => { r with name := id }⟩

instance : Named DropSchema DatabaseObjectId := ⟨fun id r => { r with name := id }⟩

instance : Named CreateAlert SchemaObjectId := ⟨fun id r => { r with name := id }⟩

instance : Named AlterAlert SchemaObjectId := ⟨fun id r => { r with name := id }⟩

instance : Named DropAlert SchemaObjectId := ⟨fun id r => { r with name := id }⟩

instance : Named DropFunction FunctionId := ⟨fun id r => { r with name := id }⟩

/-- Objects that a listing shows. -/
class Listed (α : Type) (Id Show : outParam Type) where
  /-- The listing of what the identifier can mean as a pattern. -/
  showFor : Id → Show
  /-- The identifier under which the listing shows the object. -/
  asListed : Id → Id := fun id => id

instance : Listed Warehouse AccountObjectId ShowWarehouses where
  showFor := ShowWarehouses.forId

instance : Listed Database AccountObjectId ShowDatabases where
  showFor := ShowDatabases.forId

instance : Listed Schema DatabaseObjectId ShowSchemas where
  showFor := ShowSchemas.forId

instance : Listed Alert SchemaObjectId ShowAlerts where
  showFor := ShowAlerts.forId

instance : Listed Function FunctionId ShowFunctions where
  showFor := ShowFunctions.forId
  asListed := FunctionId.asListed

namespace Client

def performOn {R Id : Type} [Clause R] [Validate R] [Named R Id] (c : Client) (ctx : Context)
    (id : Id) (request : R) : Operation Unit :=
  c.perform ctx (withName id request)

def find {Id Show : Type} (c : Client) (α : Type) [OfRow α] [Identified α Id] [Listed α Id Show]
    [Clause Show] [Validate Show] [DecidableEq Id] (ctx : Context) (id : Id) : Operation α := do
  let objects ← c.list α ctx (Listed.showFor α id)
  Operation.ofExcept (findOne objects (Listed.asListed α id))

def describeWarehouse (c : Client) (ctx : Context) (id : AccountObjectId) :
    Operation (List ObjectDetail) :=
  c.list ObjectDetail ctx { name := id : DescribeWarehouse }

def describeDatabase (c : Client) (ctx : Context) (id : AccountObjectId) :
    Operation (List ObjectDetail) :=
  c.list ObjectDetail ctx { name := id : DescribeDatabase }

def describeSchema (c : Client) (ctx : Context) (id : DatabaseObjectId) :
    Operation (List ObjectDetail) :=
  c.list ObjectDetail ctx { name := id : DescribeSchema }

def describeAlert (c : Client) (ctx : Context) (id : SchemaObjectId) : Operation Alert := do
  let alerts ← c.list Alert ctx { name := id : DescribeAlert }
  Operation.ofExcept (findOne alerts id)

/-- Describes a function by its properties. -/
def describeFunction (c : Client) (ctx : Context) (id : FunctionId) : Operation (List Property) :=
  c.list Property ctx { name := id : DescribeFunction }

end Client

end WarehouseAdmin
