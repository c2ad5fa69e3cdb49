import WarehouseAdmin.Session.Resources
import WarehouseAdmin.Proofs.Catalog.Reading
import WarehouseAdmin.Proofs.Session.Statement

/-!
# Operations that are one statement

Most operations on objects are one and the same thing: a statement is checked and rendered, it is
sent, and its answer is read. `Sends` says so, with what is made of the answer as a relation, and it
is kept when something pure is done with the result. So the operations on objects are gone through
once, and what holds of one statement holds of them all.

Of the sending itself two facts are needed, where the context is not cancelled beforehand: how the
waiting ends is known from the driver's behaviour alone (`ending`), and what the statement comes to
is known from how the waiting ends (`run_fst`).
-/

set_option autoImplicit false

namespace WarehouseAdmin

/-- The outcome that a result without a session stands for. -/
def Outcome.ofExcept {α : Type} : Except Error α → Outcome α
  | .ok a => .done a
  | .error e => .failed e

/-- What a statement comes to for which the driver does `b`, once it is known how the waiting
ends. -/
def Behaviour.outcome (b : Behaviour) : Option Ending.Timed → Outcome Answer
  | none => .never
  | some (_, .answered) => .ofExcept (b.answer.mapError DriverError.classify)
  | some (_, .timedOut limit) => .failed (.timeout (Time.Span.ofMillis limit))
  | some (_, .cancelled) => .failed .cancelled

/-- What a statement comes to for which the driver does `b`, and which is over `x` milliseconds after
it was handed over without being cancelled: if its answer is there by then, that counts, and else its
time has run out. -/
def Behaviour.over (b : Behaviour) (x : Nat) : Outcome Answer :=
  if b.delay = some x then .ofExcept (b.answer.mapError DriverError.classify)
  else .failed (.timeout (.ofMillis x))

namespace Client

open Operation

variable (c : Client) (ctx : Context)

/-- What the driver does with a statement that is handed over in the session `s`. -/
def behaviour (kind : StatementKind) (sql : String) (s : Session) : Behaviour :=
  c.driver.respond s.dispatches ⟨s.now, kind, sql⟩

/-- When and how the waiting ends for a statement that is handed over in the session `s`. -/
def ending (kind : StatementKind) (sql : String) (s : Session) : Option Ending.Timed :=
  let b := c.behaviour kind sql s
  settle s.now (s.cancelTime? ctx) b.delay (c.limit? ctx s.now) b.cancels

/-! ## One statement -/

theorem ended_fst (sql : String) (b : Behaviour) (timed : Option Ending.Timed) (s : Session) :
    (c.ended ctx sql b timed s).1 = b.outcome timed := by
  rcases timed with _ | ⟨time, _ | _ | limit⟩
  · rfl
  · rfl
  · show (receive b.answer (b.upTo ctx time s)).1 = .ofExcept (b.answer.mapError _)
    cases b.answer <;> rfl
  · rfl

/-- **What a statement comes to.** -/
theorem run_fst (kind : StatementKind) (sql : String) {s : Session}
    (h : s.isCancelled ctx = false) :
    (c.run ctx kind sql s).1 = (c.behaviour kind sql s).outcome (c.ending ctx kind sql s) := by
  obtain ⟨events, hrun⟩ := c.run_eq ctx kind sql h
  have hdispatch : c.dispatch kind sql { s with events } =
      (.done (c.behaviour kind sql s), (c.dispatch kind sql { s with events }).2) := rfl
  rw [hrun, andThen_done hdispatch, await_eq, ended_fst]
  rfl

/-- The statement is sent, and the waiting for it ends with its answer. -/
def IsAnswered (kind : StatementKind) (sql : String) (s : Session) : Prop :=
  s.isCancelled ctx = false ∧ ∃ time, c.ending ctx kind sql s = some (time, .answered)

theorem run_fst_of_isAnswered {kind : StatementKind} {sql : String} {s : Session}
    (h : c.IsAnswered ctx kind sql s) {a : Answer} (ha : (c.behaviour kind sql s).answer = .ok a) :
    (c.run ctx kind sql s).1 = .done a := by
  obtain ⟨hcancelled, time, hending⟩ := h
  rw [c.run_fst ctx kind sql hcancelled, hending]
  show Outcome.ofExcept ((c.behaviour kind sql s).answer.mapError _) = _
  rw [ha]
  rfl

end Client

/-! ## Operations that are one statement -/

/-- The operation is the statement, which is checked first; what its answer comes to is as `means`
says. -/
def Operation.Sends {α : Type} (c : Client) (ctx : Context) (kind : StatementKind)
    (statement : Except Error String) (means : Answer → Except Error α → Prop)
    (op : Operation α) : Prop :=
  ∃ read : Answer → Except Error α, (∀ a, means a (read a)) ∧
    op = (Operation.ofExcept statement).andThen fun sql =>
      (c.run ctx kind sql).andThen fun a => Operation.ofExcept (read a)

namespace Operation

variable {c : Client} {ctx : Context} {kind : StatementKind} {statement : Except Error String}
variable {α β : Type} {op : Operation α} {means : Answer → Except Error α → Prop}

/-- An operation that is put together as one statement, with what its answer is read as. -/
theorem sends_statement (kind : StatementKind) (statement : Except Error String)
    (read : Answer → Except Error α) :
    ((ofExcept statement).andThen fun sql => (c.run ctx kind sql).andThen fun a =>
      ofExcept (read a)).Sends c ctx kind statement fun a r => r = read a :=
  ⟨read, fun _ => rfl, rfl⟩

/-- Doing something pure with the result leaves an operation one statement. -/
theorem Sends.andThen (h : op.Sends c ctx kind statement means)
    {means' : Answer → Except Error β → Prop} {f : α → Except Error β}
    (hf : ∀ a r, means a r → means' a (r.bind f)) :
    (op.andThen fun x => ofExcept (f x)).Sends c ctx kind statement means' := by
  obtain ⟨read, hread, rfl⟩ := h
  refine ⟨fun a => (read a).bind f, fun a => hf a (read a) (hread a), ?_⟩
  rw [andThen_assoc]
  congr 1
  funext sql
  rw [andThen_assoc]
  congr 1
  funext a
  exact ofExcept_andThen (read a) f

/-- What was logged before makes no difference to one statement. -/
theorem Sends.ignoresLog (h : op.Sends c ctx kind statement means) : op.IgnoresLog := by
  obtain ⟨read, -, rfl⟩ := h
  refine (ignoresLog_ofExcept statement).andThen fun sql => ?_
  exact (c.ignoresLog_run ctx kind sql).andThen fun a => ignoresLog_ofExcept (read a)

/-- The statement is handed over if it passes its check, and reading the answer sends nothing. -/
theorem Sends.handsOver (h : op.Sends c ctx kind statement means) :
    op.HandsOver ctx kind statement := by
  obtain ⟨read, -, rfl⟩ := h
  refine handsOver_checked fun sql => ?_
  exact (c.handsOver_run ctx kind sql).andThen fun a => handsNothing_ofExcept (read a)

/-- Failures are single if those of the check and of the reading are. -/
theorem Sends.failsWith (h : op.Sends c ctx kind statement means)
    (hstatement : ∀ e, statement = .error e → e.IsSingle)
    (hmeans : ∀ a e, means a (.error e) → e.IsSingle) : op.FailsWith Error.IsSingle := by
  obtain ⟨read, hread, rfl⟩ := h
  refine (failsWith_ofExcept hstatement).andThen fun sql => ?_
  refine (c.failsWith_run ctx kind sql).andThen fun a => failsWith_ofExcept fun e he => ?_
  exact hmeans a e (he ▸ hread a)

/-- A statement that does not pass its check is not sent. -/
theorem Sends.rejected {e : Error} (h : op.Sends c ctx kind (.error e) means) (s : Session) :
    op s = (.failed e, s) := by
  obtain ⟨read, -, rfl⟩ := h
  rfl

section
variable {sql : String} (h : op.Sends c ctx kind (.ok sql) means) (s : Session)
include h

/-- An answer that comes is read. -/
theorem Sends.fst_of_done {a : Answer} (ha : (c.run ctx kind sql s).1 = .done a) :
    ∃ r, means a r ∧ (op s).1 = .ofExcept r := by
  obtain ⟨read, hread, rfl⟩ := h
  refine ⟨read a, hread a, ?_⟩
  have hrun : c.run ctx kind sql s = (.done a, (c.run ctx kind sql s).2) := Prod.ext ha rfl
  show ((c.run ctx kind sql).andThen _ s).1 = _
  rw [andThen_done hrun]
  cases read a <;> rfl

theorem Sends.fst_of_failed {e : Error} (he : (c.run ctx kind sql s).1 = .failed e) :
    (op s).1 = .failed e := by
  obtain ⟨read, -, rfl⟩ := h
  have hrun : c.run ctx kind sql s = (.failed e, (c.run ctx kind sql s).2) := Prod.ext he rfl
  show ((c.run ctx kind sql).andThen _ s).1 = _
  rw [andThen_failed hrun]

theorem Sends.fst_of_never (hnever : (c.run ctx kind sql s).1 = .never) : (op s).1 = .never := by
  obtain ⟨read, -, rfl⟩ := h
  have hrun : c.run ctx kind sql s = (.never, (c.run ctx kind sql s).2) := Prod.ext hnever rfl
  show ((c.run ctx kind sql).andThen _ s).1 = _
  rw [andThen_never hrun]

end

end Operation

/-! ## Requests, listings and look-ups -/

namespace Client

open Operation

variable (c : Client) (ctx : Context)

section
variable {R : Type} [Clause R] [Validate R]

/-- A request is executed, and nothing is made of the number of rows that it changed. -/
theorem sends_perform (request : R) :
    (c.perform ctx request).Sends c ctx .execute (render request) fun _ r => r = .ok () := by
  refine ⟨fun _ => .ok (), fun _ => rfl, ?_⟩
  show (ofExcept (render request)).andThen _ = _
  congr 1
  funext sql
  exact andThen_assoc (c.run ctx .execute sql) (fun a => result a.affected) fun _ => result ()

theorem handsOver_perform (request : R) :
    (c.perform ctx request).HandsOver ctx .execute (render request) :=
  (c.sends_perform ctx request).handsOver

variable {α : Type} [OfRow α]

/-- A listing is asked for, and the rows of the answer are read in order. -/
theorem sends_list (request : R) :
    (c.list α ctx request).Sends c ctx .query (render request) fun a r =>
      ReadInOrder α a.rows r := by
  refine ⟨fun a => (scanAll α a.rows).mapError .scan, fun a => readInOrder_scanAll a.rows, ?_⟩
  show (ofExcept (render request)).andThen _ = _
  congr 1
  funext sql
  exact andThen_assoc (c.run ctx .query sql) (fun a => result a.rows) fun rows =>
    ofExcept ((scanAll α rows).mapError .scan)

variable {Id : Type} [Identified α Id] [DecidableEq Id]

/-- An object is asked for by a listing, and picked from what was read. -/
theorem sends_pick (request : R) (id : Id) :
    ((c.list α ctx request).andThen fun as => ofExcept (findOne as id)).Sends c ctx .query
      (render request) fun a r => Picks α id a.rows r :=
  (c.sends_list ctx request).andThen fun _ _ h => picks_findOne h id

theorem sends_find [Listed α Id R] (id : Id) :
    (c.find α ctx id).Sends c ctx .query (render (Listed.showFor α id)) fun a r =>
      Picks α (Listed.asListed α id) a.rows r :=
  c.sends_pick ctx (Listed.showFor α id) (Listed.asListed α id)

end

end Client

end WarehouseAdmin
