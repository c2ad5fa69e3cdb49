import WarehouseAdmin.Session.Action
import WarehouseAdmin.Proofs.Request.Basic
import WarehouseAdmin.Proofs.Session.Sending

/-!
# The one request of an action

Save for the two safe ones, which may go on to look containers up, a task about an object sends one
request. `Action.request?` writes down which: what is created, altered or dropped bears the
identifier that the action names, whatever name the request carried before. `Action.Means` says what
the answer comes to. That an action is the statement of its request and nothing else (`sends_act`)
is shown for tasks, once for all kinds of objects; the kinds differ in their descriptions only.
-/

set_option autoImplicit false

namespace WarehouseAdmin

namespace Task

variable {Id Create Alter Drop Show : Type}

/-- What the statement of a task is sent for. -/
def kind : Task Id Create Alter Drop Show → StatementKind
  | .create _ _ | .alter _ _ | .drop _ _ | .dropSafely _ _ => .execute
  | .list _ | .find _ | .describe _ | .findSafely _ => .query

/-- The identifier that the task names; a listing names none. -/
def subject? : Task Id Create Alter Drop Show → Option Id
  | .list _ => none
  | .create id _ | .alter id _ | .drop id _ | .dropSafely id _ => some id
  | .find id | .describe id | .findSafely id => some id

/-- Says whether the task is to find an object. -/
def isFind : Task Id Create Alter Drop Show → Bool
  | .find _ => true
  | _ => false

/-- Says whether the task may go on to look containers up. -/
def isSafe : Task Id Create Alter Drop Show → Bool
  | .findSafely _ | .dropSafely _ _ => true
  | _ => false

section
variable [Clause Create] [Validate Create] [Named Create Id] [Clause Alter] [Validate Alter]
  [Named Alter Id] [Clause Drop] [Validate Drop] [Named Drop Id] [Clause Show] [Validate Show]

/-- The statement of a task, where `description` is that of a description. -/
def statement? (α : Type) [Listed α Id Show] (description : Id → Except Error String) :
    Task Id Create Alter Drop Show → Option (Except Error String)
  | .create id r => some (render (withName id r))
  | .alter id r => some (render (withName id r))
  | .drop id r => some (render (withName id r))
  | .list r => some (render r)
  | .find id => some (render (Listed.showFor α id))
  | .describe id => some (description id)
  | .findSafely _ | .dropSafely _ _ => none

end

/-- What an answer to a task about objects `α` comes to, where `describes` says what the rows of a
description come to. -/
def Means (α : Type) {β : Type} [OfRow α] [Identified α Id] [Listed α Id Show]
    (describes : Id → List Row → Except Error β → Prop) :
    Task Id Create Alter Drop Show → Answer → Except Error (TaskResult α β) → Prop
  | .create _ _, _, r | .alter _ _, _, r | .drop _ _, _, r => r = .ok .done
  | .list _, a, r => ∃ objects, ReadInOrder α a.rows objects ∧ r = objects.map .objects
  | .find id, a, r =>
    ∃ object, Picks α (Listed.asListed α id) a.rows object ∧ r = object.map .object
  | .describe id, a, r => ∃ description, describes id a.rows description ∧
    r = description.map .description
  | .findSafely _, _, _ | .dropSafely _ _, _, _ => False

end Task

namespace Action

/-- The request that the action sends, about the object that it names. -/
def request? : Action → Option Request
  | .warehouse (.create id r) => some (.createWarehouse { r with name := id })
  | .warehouse (.alter id r) => some (.alterWarehouse { r with name := id })
  | .warehouse (.drop id r) => some (.dropWarehouse { r with name := id })
  | .warehouse (.list r) => some (.showWarehouses r)
  | .warehouse (.find id) => some (.showWarehouses (.forId id))
  | .warehouse (.describe id) => some (.describeWarehouse { name := id })
  | .database (.create id r) => some (.createDatabase { r with name := id })
  | .database (.alter id r) => some (.alterDatabase { r with name := id })
  | .database (.drop id r) => some (.dropDatabase { r with name := id })
  | .database (.list r) => some (.showDatabases r)
  | .database (.find id) => some (.showDatabases (.forId id))
  | .database (.describe id) => some (.describeDatabase { name := id })
  | .schema (.create id r) => some (.createSchema { r with name := id })
  | .schema (.alter id r) => some (.alterSchema { r with name := id })
  | .schema (.drop id r) => some (.dropSchema { r with name := id })
  | .schema (.list r) => some (.showSchemas r)
  | .schema (.find id) => some (.showSchemas (.forId id))
  | .schema (.describe id) => some (.describeSchema { name := id })
  | .alert (.create id r) => some (.createAlert { r with name := id })
  | .alert (.alter id r) => some (.alterAlert { r with name := id })
  | .alert (.drop id r) => some (.dropAlert { r with name := id })
  | .alert (.list r) => some (.showAlerts r)
  | .alert (.find id) => some (.showAlerts (.forId id))
  | .alert (.describe id) => some (.describeAlert { name := id })
  | .function (.drop id r) => some (.dropFunction { r with name := id })
  | .function (.list r) => some (.showFunctions r)
  | .function (.find id) => some (.showFunctions (.forId id))
  | .function (.describe id) => some (.describeFunction { name := id })
  | _ => none

/-- The statement of the action. Each kind of object is described by a request of its own. -/
def statement? : Action → Option (Except Error String)
  | .warehouse t => t.statement? Warehouse fun id => render ({ name := id } : DescribeWarehouse)
  | .database t => t.statement? Database fun id => render ({ name := id } : DescribeDatabase)
  | .schema t => t.statement? Schema fun id => render ({ name := id } : DescribeSchema)
  | .alert t => t.statement? Alert fun id => render ({ name := id } : DescribeAlert)
  | .function t => t.statement? Function fun id => render ({ name := id } : DescribeFunction)

/-- The statement is that of the request. There is no request to create or alter a function. -/
theorem statement?_eq (a : Action) : a.statement? = a.request?.map fun q => render q := by
  cases a with
  | warehouse t | database t | schema t | alert t =>
    cases t with
    | findSafely id | dropSafely id r => rfl
    | _ => exact congrArg some (render_congr rfl rfl)
  | function t =>
    cases t with
    | create id r | alter id r => exact r.elim
    | findSafely id | dropSafely id r => rfl
    | _ => exact congrArg some (render_congr rfl rfl)

/-- Does the same with the task of whatever kind. -/
def onTask {β : Type}
    (f : {Id Create Alter Drop Show : Type} → Task Id Create Alter Drop Show → β) : Action → β
  | .warehouse t => f t
  | .database t => f t
  | .schema t => f t
  | .alert t => f t
  | .function t => f t

/-- What the action's statement is sent for. -/
def kind : Action → StatementKind := onTask fun t => t.kind

/-- Says whether the action is to find an object. -/
def isFind : Action → Bool := onTask fun t => t.isFind

/-- Says whether the action may go on to look containers up. -/
def isSafe : Action → Bool := onTask fun t => t.isSafe

/-- Every other action is one request. -/
theorem exists_request {a : Action} (h : a.isSafe = false) : ∃ q, a.request? = some q := by
  cases a with
  | warehouse t | database t | schema t | alert t =>
    cases t with
    | findSafely id | dropSafely id r => exact nomatch h
    | _ => exact ⟨_, rfl⟩
  | function t =>
    cases t with
    | create id r | alter id r => exact r.elim
    | findSafely id | dropSafely id r => exact nomatch h
    | _ => exact ⟨_, rfl⟩

/-- The identifier that the action names; a listing names none. -/
def subject? : Action → Option Identifier
  | .warehouse t => t.subject?.map .account
  | .database t => t.subject?.map .account
  | .schema t => t.subject?.map .database
  | .alert t => t.subject?.map .schema
  | .function t => t.subject?.map .function

/-- What an answer to the action comes to. Warehouses, databases and schemas are described by what
they hold, functions by their properties, and an alert by itself. -/
def Means : Action → Answer → Except Error ActionResult → Prop
  | .warehouse t, a, r =>
    ∃ x, t.Means Warehouse (fun _ => ReadInOrder ObjectDetail) a x ∧ r = x.map .warehouse
  | .database t, a, r =>
    ∃ x, t.Means Database (fun _ => ReadInOrder ObjectDetail) a x ∧ r = x.map .database
  | .schema t, a, r =>
    ∃ x, t.Means Schema (fun _ => ReadInOrder ObjectDetail) a x ∧ r = x.map .schema
  | .alert t, a, r => ∃ x, t.Means Alert (Picks Alert) a x ∧ r = x.map .alert
  | .function t, a, r =>
    ∃ x, t.Means Function (fun _ => ReadInOrder Property) a x ∧ r = x.map .function

end Action

namespace Client

open Operation

variable (c : Client) (ctx : Context)

section
variable {α β Id Create Alter Drop Show : Type} [OfRow α] [Identified α Id] [Listed α Id Show]
  [DecidableEq Id] [Clause Create] [Validate Create] [Named Create Id] [Clause Alter]
  [Validate Alter] [Named Alter Id] [Clause Drop] [Validate Drop] [Named Drop Id] [Clause Show]
  [Validate Show]

/-- A task is its statement, one case for each kind of task. -/
theorem sends_doTask {identify : Id → Identifier} {describe : Id → Operation β}
    {description : Id → Except Error String} {describes : Id → List Row → Except Error β → Prop}
    (hdescribe : ∀ id, (describe id).Sends c ctx .query (description id) fun a r =>
      describes id a.rows r)
    {t : Task Id Create Alter Drop Show} {statement : Except Error String}
    (ht : t.statement? α description = some statement) :
    (c.doTask ctx identify describe t).Sends c ctx t.kind statement (t.Means α describes) := by
  cases t with
  | create id r | alter id r | drop id r =>
    obtain rfl := Option.some.inj ht
    refine (c.sends_perform ctx (withName id r)).andThen
      (f := fun _ => .ok (TaskResult.done : TaskResult α β)) fun a x hx => ?_
    rw [hx]
    rfl
  | list r =>
    obtain rfl := Option.some.inj ht
    exact (c.sends_list ctx r).andThen (f := fun as => .ok (TaskResult.objects as : TaskResult α β))
      fun a x hx => ⟨x, hx, rfl⟩
  | find id =>
    obtain rfl := Option.some.inj ht
    exact (c.sends_find ctx id).andThen (f := fun o => .ok (TaskResult.object o : TaskResult α β))
      fun a x hx => ⟨x, hx, rfl⟩
  | describe id =>
    obtain rfl := Option.some.inj ht
    exact (hdescribe id).andThen (f := fun d => .ok (TaskResult.description d : TaskResult α β))
      fun a x hx => ⟨x, hx, rfl⟩
  | findSafely id | dropSafely id r => exact nomatch ht

end

/-- **An action is the statement of its request.** -/
theorem sends_act {a : Action} {q : Request} (hq : a.request? = some q) :
    (c.act ctx a).Sends c ctx a.kind (render q) a.Means := by
  have ha : a.statement? = some (render q) := by rw [a.statement?_eq, hq]; rfl
  cases a with
  | warehouse t =>
    exact (c.sends_doTask ctx (fun id => c.sends_list ctx _) ha).andThen
      (f := fun x => .ok (ActionResult.warehouse x)) fun a x hx => ⟨x, hx, rfl⟩
  | database t =>
    exact (c.sends_doTask ctx (fun id => c.sends_list ctx _) ha).andThen
      (f := fun x => .ok (ActionResult.database x)) fun a x hx => ⟨x, hx, rfl⟩
  | schema t =>
    exact (c.sends_doTask ctx (fun id => c.sends_list ctx _) ha).andThen
      (f := fun x => .ok (ActionResult.schema x)) fun a x hx => ⟨x, hx, rfl⟩
  | alert t =>
    exact (c.sends_doTask ctx (fun id => c.sends_pick ctx _ id) ha).andThen
      (f := fun x => .ok (ActionResult.alert x)) fun a x hx => ⟨x, hx, rfl⟩
  | function t =>
    exact (c.sends_doTask ctx (fun id => c.sends_list ctx _) ha).andThen
      (f := fun x => .ok (ActionResult.function x)) fun a x hx => ⟨x, hx, rfl⟩

end Client

end WarehouseAdmin
