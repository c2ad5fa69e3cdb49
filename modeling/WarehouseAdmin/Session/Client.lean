import WarehouseAdmin.Settings.Basic
import WarehouseAdmin.Row.Decode
import WarehouseAdmin.Validation.Rules
import WarehouseAdmin.Session.Driver
import WarehouseAdmin.Session.Classification

/-!
# Clients

A client sends statements through its driver, one at a time, and waits for the answers. The waiting
ends with the answer, at the time limit, or when the context is cancelled, whichever comes first. Of
those that come at one time, a cancellation counts before an answer, and an answer before the limit.
Only a cancellation by the driver itself counts after both: the client has looked for cancellations
before it asked the driver, and looks again only if the waiting is not over by then.
-/

set_option autoImplicit false

namespace WarehouseAdmin

open Time

/-- How the waiting for an answer ends. -/
inductive Ending where
  | cancelled
  | answered
  /-- The time limit, which is given, has passed. -/
  | timedOut (limit : Nat)
deriving DecidableEq, Repr

/-- An ending together with its time. -/
abbrev Ending.Timed : Type := Nat × Ending

/-- The earliest ending; of those at one time, the first. -/
def earliest : List Ending.Timed → Option Ending.Timed
  | [] => none
  | e :: rest =>
    match earliest rest with
    | some f => if f.1 < e.1 then some f else some e
    | none => some e

/-- What may end the waiting that begins at `start`. The context is cancelled from `cancel` on, the
answer comes after `delay`, and after `own` the driver cancels the context itself. -/
def endings (start : Nat) (cancel delay limit own : Option Nat) : List Ending.Timed :=
  cancel.toList.map (·, .cancelled) ++ delay.toList.map (start + ·, .answered) ++
    limit.toList.map (fun l => (start + l, .timedOut l)) ++ own.toList.map (start + ·, .cancelled)

/-- When and how the waiting ends. -/
def settle (start : Nat) (cancel delay limit own : Option Nat) : Option Ending.Timed :=
  earliest (endings start cancel delay limit own)

/-- The token that the driver cancels, if it does. -/
def Behaviour.target (b : Behaviour) (ctx : Context) : Nat := ctx.tokens.getD b.above ctx.token

/-- The session at the end of the waiting for a statement with which the driver does `b`. The driver
has cancelled the context if it was to do so by then, unless somebody was faster. -/
def Behaviour.upTo (b : Behaviour) (ctx : Context) (time : Nat) (s : Session) : Session :=
  let later := { s with now := time }
  if b.cancels.any (s.now + · ≤ time) && !later.isCancelled ctx then
    later.cancel { ctx with token := b.target ctx }
  else later

structure Client where
  driver : Driver
  settings : Settings := {}

namespace Client

/-- The account that a statement is sent to, as far as it is known. -/
def account (c : Client) (ctx : Context) : String :=
  (ctx.locator <|> c.settings.locator).getD ""

/-- The time that a statement may take: what is left before the deadline, and otherwise what the
settings say. -/
def limit? (c : Client) (ctx : Context) (now : Nat) : Option Nat :=
  ctx.remaining now <|> c.settings.timeoutSeconds.map (1000 * ·)

def dispatch (c : Client) (kind : StatementKind) (sql : String) : Operation Behaviour := fun s =>
  let d : Dispatch := ⟨s.now, kind, sql⟩
  (.done (c.driver.respond s.dispatches d), { s with dispatches := s.dispatches ++ [d] })

def receive (answer : Except DriverError Answer) : Operation Answer := fun s =>
  match answer with
  | .ok a => (.done a, s)
  | .error e => (.failed e.classify, e.events.foldl Session.log s)

/-- Waits for the answer to a statement that was handed to the driver. -/
def await (c : Client) (ctx : Context) (sql : String) (b : Behaviour) : Operation Answer := fun s =>
  match settle s.now (s.cancelTime? ctx) b.delay (c.limit? ctx s.now) b.cancels with
  | none => (.never, s)
  | some (time, ending) =>
    let s := b.upTo ctx time s
    match ending with
    | .answered => receive b.answer s
    | .timedOut limit => (.failed (.timeout (Span.ofMillis limit)), s)
    | .cancelled =>
      (.failed .cancelled, s.log (.cancelled (if c.settings.logStatements then some sql else none)))

/-- Sends a statement and waits for its answer. Under a cancelled context nothing is sent. -/
def run (c : Client) (ctx : Context) (kind : StatementKind) (sql : String) : Operation Answer :=
  fun s =>
    if s.isCancelled ctx then (.failed .cancelled, s)
    else
      let s := if c.settings.logStatements then s.log (.executing sql (c.account ctx)) else s
      (c.dispatch kind sql >>= c.await ctx sql) s

/-- Executes a statement; gives the number of rows that it changed. -/
def execute (c : Client) (ctx : Context) (sql : String) : Operation Nat := do
  return (← c.run ctx .execute sql).affected

/-- Sends a statement for its rows. -/
def queryRows (c : Client) (ctx : Context) (sql : String) : Operation (List Row) := do
  return (← c.run ctx .query sql).rows

/-- Sends a statement for its rows, which are read. -/
def query (c : Client) (α : Type) [OfRow α] (ctx : Context) (sql : String) :
    Operation (List α) := do
  let rows ← c.queryRows ctx sql
  Operation.ofExcept ((scanAll α rows).mapError .scan)

/-- Executes a request, which is checked first. -/
def perform {R : Type} [Clause R] [Validate R] (c : Client) (ctx : Context) (request : R) :
    Operation Unit := do
  let sql ← Operation.ofExcept (render request)
  let _ ← c.execute ctx sql

/-- Sends a request, which is checked first, for its rows, which are read. -/
def list {R : Type} [Clause R] [Validate R] (c : Client) (α : Type) [OfRow α] (ctx : Context)
    (request : R) : Operation (List α) := do
  let sql ← Operation.ofExcept (render request)
  c.query α ctx sql

end Client

end WarehouseAdmin
