import WarehouseAdmin.Request.Warehouse
import WarehouseAdmin.Request.Database
import WarehouseAdmin.Request.Schema
import WarehouseAdmin.Request.Alert
import WarehouseAdmin.Request.Function
import WarehouseAdmin.Proofs.Validation.Clean

/-!
# All requests as one type

Every request has its own type, with its own fields and its own rules, and nothing but the two
classes `Clause` and `Validate` ties these types together. A statement about *every* request has to
quantify over them, so here they are constructors of one type `Request`, the parts that carry rules
of their own (places, limits, points in time, clone sources, properties of a warehouse) included.
`Request.on` is the only place that enumerates them; the instances below are cut from it, so
`render q` for a `q : Request` is by definition the `render` of what `q` holds.

A request is accepted only if the parts inside it are (`validate_of_holds`). That is what carries a
fact about a part, such as a point in time, up through the clone that holds it to the creation of a
schema.
-/

set_option autoImplicit false

namespace WarehouseAdmin

/-- Everything that is checked by rules of its own. -/
inductive Request where
  | createWarehouse (r : CreateWarehouse)
  | alterWarehouse (r : AlterWarehouse)
  | dropWarehouse (r : DropWarehouse)
  | showWarehouses (r : ShowWarehouses)
  | describeWarehouse (r : DescribeWarehouse)
  | createDatabase (r : CreateDatabase)
  | alterDatabase (r : AlterDatabase)
  | dropDatabase (r : DropDatabase)
  | showDatabases (r : ShowDatabases)
  | describeDatabase (r : DescribeDatabase)
  | createSchema (r : CreateSchema)
  | alterSchema (r : AlterSchema)
  | dropSchema (r : DropSchema)
  | showSchemas (r : ShowSchemas)
  | describeSchema (r : DescribeSchema)
  | createAlert (r : CreateAlert)
  | alterAlert (r : AlterAlert)
  | dropAlert (r : DropAlert)
  | showAlerts (r : ShowAlerts)
  | describeAlert (r : DescribeAlert)
  | dropFunction (r : DropFunction)
  | showFunctions (r : ShowFunctions)
  | describeFunction (r : DescribeFunction)
  | warehouseSet (r : WarehouseSet)
  | databaseClone (r : DatabaseClone)
  | schemaClone (r : SchemaClone)
  | clonePoint (r : ClonePoint)
  | timeTravel (r : TimeTravel)
  | within (r : Within)
  | limit (r : Limit)
deriving Repr

namespace Request

/-- Does the same with whatever the request holds. -/
def on {β : Type} (f : {α : Type} → [Clause α] → [Validate α] → α → β) : Request → β
  | .createWarehouse r => f r
  | .alterWarehouse r => f r
  | .dropWarehouse r => f r
  | .showWarehouses r => f r
  | .describeWarehouse r => f r
  | .createDatabase r => f r
  | .alterDatabase r => f r
  | .dropDatabase r => f r
  | .showDatabases r => f r
  | .describeDatabase r => f r
  | .createSchema r => f r
  | .alterSchema r => f r
  | .dropSchema r => f r
  | .showSchemas r => f r
  | .describeSchema r => f r
  | .createAlert r => f r
  | .alterAlert r => f r
  | .dropAlert r => f r
  | .showAlerts r => f r
  | .describeAlert r => f r
  | .dropFunction r => f r
  | .showFunctions r => f r
  | .describeFunction r => f r
  | .warehouseSet r => f r
  | .databaseClone r => f r
  | .schemaClone r => f r
  | .clonePoint r => f r
  | .timeTravel r => f r
  | .within r => f r
  | .limit r => f r

end Request

instance : Clause Request := ⟨Request.on fun r => Clause.fields r⟩

instance : Validate Request := ⟨Request.on fun r => Validate.failures r⟩

/-! ## Their checks record flat errors -/

@[simp] theorem clusterFailures_eq_nil {request : String} {min max : Option Int} :
    clusterFailures request min max = [] ↔ ∀ a, min = some a → ∀ b, max = some b → a ≤ b := by
  cases min <;> cases max <;> simp [clusterFailures]

@[simp] theorem allFlat_clusterFailures {request : String} {min max : Option Int} :
    AllFlat (clusterFailures request min max) := by
  cases min <;> cases max <;> simp [clusterFailures]

@[simp] theorem allFlat_alertSet {s : AlertSet} : AllFlat s.failures := by
  simp [AlertSet.failures]

section

attribute [local simp] Validate.failures

/-! The parts come before the requests that hold them, for the errors of a nested check are flat only
if those of the part are. -/

instance : FlatFailures TimeTravel := ⟨fun r => show AllFlat _ by simp⟩
instance : FlatFailures ClonePoint := ⟨fun r => show AllFlat _ by simp⟩
instance : FlatFailures Within := ⟨fun r => show AllFlat _ by simp⟩
instance : FlatFailures Limit := ⟨fun r => show AllFlat _ by simp⟩
instance : FlatFailures WarehouseSet := ⟨fun r => show AllFlat _ by simp⟩
instance : FlatFailures DatabaseClone := ⟨fun r => show AllFlat _ by simp⟩
instance : FlatFailures SchemaClone := ⟨fun r => show AllFlat _ by simp⟩

/-- One case per request; every rule it is made of records flat errors. -/
instance : FlatFailures Request where
  isFlat q := show AllFlat _ by
    cases q <;> simp [Request.on]

end

/-! ## The parts of a request -/

namespace Request

/-- The parts that are checked by rules of their own. -/
def parts : Request → List Request
  | .alterWarehouse r => r.set.toList.map warehouseSet
  | .createDatabase r => r.clone.toList.map databaseClone
  | .createSchema r => r.clone.toList.map schemaClone
  | .databaseClone r => r.point.toList.map clonePoint
  | .schemaClone r => r.point.toList.map clonePoint
  | .clonePoint r => (r.atPoint.toList ++ r.beforePoint.toList).map timeTravel
  | .showDatabases r => r.limit.toList.map limit
  | .showSchemas r => r.within.toList.map within ++ r.limit.toList.map limit
  | .showAlerts r => r.within.toList.map within
  | .showFunctions r => r.within.toList.map within
  | _ => []

/-- What the request holds: itself, its parts, the parts of these, and so on. -/
inductive Holds : Request → Request → Prop where
  | self (q : Request) : Holds q q
  | part {q p r : Request} (hp : p ∈ q.parts) (h : Holds p r) : Holds q r

/-- A request records the errors of its parts. -/
theorem validate_of_mem_parts {q p : Request} (hq : validate q = .ok ()) (hp : p ∈ q.parts) :
    validate p = .ok () := by
  have h : q.on (fun r => Validate.failures r) = [] := validate_eq_ok_iff.mp hq
  -- The requests without parts are gone after this; the others say in `h` that each part they hold
  -- is accepted.
  cases q <;> simp [parts, on, Validate.failures] at hp h
  case showSchemas | clonePoint =>
    rcases hp with ⟨a, ha, rfl⟩ | ⟨a, ha, rfl⟩
    all_goals
      show validate a = .ok ()
      simp_all
  all_goals
    obtain ⟨a, ha, rfl⟩ := hp
    show validate a = .ok ()
    simp_all

/-- **What an accepted request holds is accepted.** -/
theorem validate_of_holds {q p : Request} (hq : validate q = .ok ()) (h : q.Holds p) :
    validate p = .ok () := by
  induction h with
  | self q => exact hq
  | part hp _ ih => exact ih (validate_of_mem_parts hq hp)

end Request

end WarehouseAdmin
