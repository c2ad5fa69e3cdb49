import WarehouseAdmin.Session.Action
import WarehouseAdmin.Proofs.Request.Refusal
import WarehouseAdmin.Proofs.Session.Sending

/-!
# What a client can be asked for

`Asked` lists the operations that a client offers under a context: raw statements, the actions on
objects, and the two that look the containers of an object up when another operation fails. All of
them are put together from single statements in three ways (`Composed`), so that what is to be shown
of every operation is shown for a statement whose answer is read, and is then kept by the two safe
operations (`Asked.composed`).
-/

set_option autoImplicit false

namespace WarehouseAdmin

namespace Client

/-- The operations that a client can be asked for under a context. -/
inductive Asked (c : Client) (ctx : Context) : {α : Type} → Operation α → Prop where
  | execute (sql : String) : Asked c ctx (c.execute ctx sql)
  | queryRows (sql : String) : Asked c ctx (c.queryRows ctx sql)
  | query (α : Type) [OfRow α] (sql : String) : Asked c ctx (c.query α ctx sql)
  | act (a : Action) : Asked c ctx (c.act ctx a)
  | safely {α : Type} {find : Operation α} (id : Identifier) :
      Asked c ctx find → Asked c ctx (c.safely ctx id find)
  | dropSafely {drop : Operation Unit} (id : Identifier) :
      Asked c ctx drop → Asked c ctx (c.dropSafely ctx id drop)
  | map {α β : Type} {op : Operation α} (f : α → β) :
      Asked c ctx op → Asked c ctx (op.andThen fun a => Operation.result (f a))

/-- The operations that come of single statements. A statement is checked first, and its answer is
read; both can find errors, but not those of statements. -/
inductive Composed (c : Client) (ctx : Context) : {α : Type} → Operation α → Prop where
  | statement {α : Type} (kind : StatementKind) {sql : Except Error String}
      {read : Answer → Except Error α} (hsql : ∀ e, sql = .error e → e.IsLocal)
      (hread : ∀ a e, read a = .error e → e.IsLocal) :
      Composed c ctx ((Operation.ofExcept sql).andThen fun sql =>
        (c.run ctx kind sql).andThen fun a => Operation.ofExcept (read a))
  | safely {α : Type} {find : Operation α} (id : Identifier) :
      Composed c ctx find → Composed c ctx (c.safely ctx id find)
  | dropSafely {drop : Operation Unit} (id : Identifier) :
      Composed c ctx drop → Composed c ctx (c.dropSafely ctx id drop)
  | map {α β : Type} {op : Operation α} (f : α → β) :
      Composed c ctx op → Composed c ctx (op.andThen fun a => Operation.result (f a))

end Client

/-! ## Every operation is composed of statements -/

/-- Requests of this type are refused for local errors only. -/
def RefusesLocally (R : Type) [Clause R] [Validate R] : Prop :=
  ∀ (r : R) (e : Error), render r = .error e → e.IsLocal

/-- It is enough that they are requests under another name. -/
theorem refusesLocally {R : Type} [Clause R] [Validate R] (request : R → Request)
    (hfailures : ∀ r, Validate.failures (request r) = Validate.failures r)
    (hfields : ∀ r, Clause.fields (request r) = Clause.fields r) : RefusesLocally R := by
  intro r e he
  rw [← render_congr (hfailures r) (hfields r)] at he
  exact Request.isLocal_of_render he

namespace Client

open Operation

variable {c : Client} {ctx : Context}

theorem composed_of_sends {α : Type} {op : Operation α} {kind : StatementKind}
    {sql : Except Error String} {means : Answer → Except Error α → Prop}
    (h : op.Sends c ctx kind sql means) (hsql : ∀ e, sql = .error e → e.IsLocal)
    (hmeans : ∀ a e, means a (.error e) → e.IsLocal) : c.Composed ctx op := by
  obtain ⟨read, hread, rfl⟩ := h
  exact .statement kind hsql fun a e he => hmeans a e (he ▸ hread a)

section
variable {R α : Type} [Clause R] [Validate R] [OfRow α]

theorem composed_perform (hR : RefusesLocally R) (r : R) : c.Composed ctx (c.perform ctx r) := by
  refine composed_of_sends (c.sends_perform ctx r) (hR r) ?_
  intro a e he
  exact nomatch he

theorem composed_list (hR : RefusesLocally R) (r : R) : c.Composed ctx (c.list α ctx r) :=
  composed_of_sends (c.sends_list ctx r) (hR r) fun _ _ => ReadInOrder.isLocal

variable {Id : Type} [Identified α Id] [DecidableEq Id]

theorem composed_pick (hR : RefusesLocally R) (r : R) (id : Id) :
    c.Composed ctx ((c.list α ctx r).andThen fun as => ofExcept (findOne as id)) :=
  composed_of_sends (c.sends_pick ctx r id) (hR r) fun _ _ => Picks.isLocal

theorem composed_find [Listed α Id R] (hR : RefusesLocally R) (id : Id) :
    c.Composed ctx (c.find α ctx id) :=
  composed_of_sends (c.sends_find ctx id) (hR _) fun _ _ => Picks.isLocal

end

/-- One case for each kind of task; what differs from one kind of object to the next is the
description. -/
theorem composed_doTask {α β Id Create Alter Drop Show : Type} [OfRow α] [Identified α Id]
    [Listed α Id Show] [DecidableEq Id] [Clause Create] [Validate Create] [Named Create Id]
    [Clause Alter] [Validate Alter] [Named Alter Id] [Clause Drop] [Validate Drop] [Named Drop Id]
    [Clause Show] [Validate Show] {identify : Id → Identifier} {describe : Id → Operation β}
    (hcreate : RefusesLocally Create) (halter : RefusesLocally Alter)
    (hdrop : RefusesLocally Drop) (hshow : RefusesLocally Show)
    (hdescribe : ∀ id, c.Composed ctx (describe id)) (t : Task Id Create Alter Drop Show) :
    c.Composed ctx
      (c.doTask ctx identify describe t : Operation (TaskResult α β)) := by
  cases t with
  | create id r => exact (composed_perform hcreate (withName id r)).map fun _ => TaskResult.done
  | alter id r => exact (composed_perform halter (withName id r)).map fun _ => TaskResult.done
  | drop id r => exact (composed_perform hdrop (withName id r)).map fun _ => TaskResult.done
  | list r => exact (composed_list hshow r).map TaskResult.objects
  | find id => exact (composed_find hshow id).map TaskResult.object
  | describe id => exact (hdescribe id).map TaskResult.description
  | findSafely id => exact ((composed_find hshow id).safely (identify id)).map TaskResult.object
  | dropSafely id r =>
    exact ((composed_perform hdrop (withName id r)).dropSafely (identify id)).map fun _ =>
      TaskResult.done

theorem composed_act (a : Action) : c.Composed ctx (c.act ctx a) := by
  cases a with
  | warehouse t =>
    have hcreate := refusesLocally .createWarehouse (fun _ => rfl) fun _ => rfl
    have halter := refusesLocally .alterWarehouse (fun _ => rfl) fun _ => rfl
    have hdrop := refusesLocally .dropWarehouse (fun _ => rfl) fun _ => rfl
    have hshow := refusesLocally .showWarehouses (fun _ => rfl) fun _ => rfl
    have hdescribe := refusesLocally .describeWarehouse (fun _ => rfl) fun _ => rfl
    exact (composed_doTask hcreate halter hdrop hshow (fun id => composed_list hdescribe _) t).map
      ActionResult.warehouse
  | database t =>
    have hcreate := refusesLocally .createDatabase (fun _ => rfl) fun _ => rfl
    have halter := refusesLocally .alterDatabase (fun _ => rfl) fun _ => rfl
    have hdrop := refusesLocally .dropDatabase (fun _ => rfl) fun _ => rfl
    have hshow := refusesLocally .showDatabases (fun _ => rfl) fun _ => rfl
    have hdescribe := refusesLocally .describeDatabase (fun _ => rfl) fun _ => rfl
    exact (composed_doTask hcreate halter hdrop hshow (fun id => composed_list hdescribe _) t).map
      ActionResult.database
  | schema t =>
    have hcreate := refusesLocally .createSchema (fun _ => rfl) fun _ => rfl
    have halter := refusesLocally .alterSchema (fun _ => rfl) fun _ => rfl
    have hdrop := refusesLocally .dropSchema (fun _ => rfl) fun _ => rfl
    have hshow := refusesLocally .showSchemas (fun _ => rfl) fun _ => rfl
    have hdescribe := refusesLocally .describeSchema (fun _ => rfl) fun _ => rfl
    exact (composed_doTask hcreate halter hdrop hshow (fun id => composed_list hdescribe _) t).map
      ActionResult.schema
  | alert t =>
    have hcreate := refusesLocally .createAlert (fun _ => rfl) fun _ => rfl
    have halter := refusesLocally .alterAlert (fun _ => rfl) fun _ => rfl
    have hdrop := refusesLocally .dropAlert (fun _ => rfl) fun _ => rfl
    have hshow := refusesLocally .showAlerts (fun _ => rfl) fun _ => rfl
    have hdescribe := refusesLocally .describeAlert (fun _ => rfl) fun _ => rfl
    exact (composed_doTask hcreate halter hdrop hshow (fun id => composed_pick hdescribe _ id) t).map
      ActionResult.alert
  | function t =>
    have hdrop := refusesLocally .dropFunction (fun _ => rfl) fun _ => rfl
    have hshow := refusesLocally .showFunctions (fun _ => rfl) fun _ => rfl
    have hdescribe := refusesLocally .describeFunction (fun _ => rfl) fun _ => rfl
    exact (composed_doTask (fun r _ => r.elim) (fun r _ => r.elim) hdrop hshow
      (fun id => composed_list hdescribe _) t).map ActionResult.function

/-- **Every operation is composed of statements.** -/
theorem Asked.composed {α : Type} {op : Operation α} (h : c.Asked ctx op) : c.Composed ctx op := by
  have hnone : ∀ {sql : String} (e : Error), Except.ok sql = .error e → e.IsLocal := nofun
  induction h with
  | execute sql =>
    have hread : ∀ (a : Answer) (e : Error), Except.ok a.affected = .error e → e.IsLocal := by
      intro a e he
      exact nomatch he
    exact Composed.statement .execute hnone hread
  | queryRows sql =>
    have hread : ∀ (a : Answer) (e : Error), Except.ok a.rows = .error e → e.IsLocal := by
      intro a e he
      exact nomatch he
    exact Composed.statement .query hnone hread
  | query α sql =>
    have hquery : c.query α ctx sql = (ofExcept (.ok sql)).andThen fun sql =>
        (c.run ctx .query sql).andThen fun a => ofExcept ((scanAll α a.rows).mapError .scan) :=
      andThen_assoc (c.run ctx .query sql) (fun a => result a.rows) fun rows =>
        ofExcept ((scanAll α rows).mapError .scan)
    rw [hquery]
    refine Composed.statement .query hnone fun a e he => ?_
    exact ReadInOrder.isLocal (he ▸ readInOrder_scanAll a.rows)
  | act a => exact composed_act a
  | safely id _ ih => exact ih.safely id
  | dropSafely id _ ih => exact ih.dropSafely id
  | map f _ ih => exact ih.map f

end Client

end WarehouseAdmin
