import WarehouseAdmin.Error

/-!
# Sessions and contexts

A session is a stretch of time in which statements are sent to a server. It records the clock, the
statements handed to the driver, the events that are logged, and which tokens are cancelled from
when on. Time is counted in milliseconds from the start of the session.

An operation runs under a context. A context holds a token, and it counts as cancelled when its own
token is, or that of a context it is a child of; so a cancellation reaches copies and children, and
never a parent. A deadline belongs to one context only, and can only be moved forward in its copies.
-/

set_option autoImplicit false

namespace WarehouseAdmin

/-- What an operation runs under. -/
structure Context where
  token : Nat
  /-- The tokens of the contexts that this one is a child of. -/
  above : List Nat := []
  deadline : Option Nat := none
  locator : Option String := none
deriving DecidableEq, Repr, Inhabited

namespace Context

/-- The tokens whose cancellation cancels the context. -/
def tokens (ctx : Context) : List Nat := ctx.token :: ctx.above

/-- A copy with a deadline, unless the one it has is earlier. -/
def withDeadline (ctx : Context) (time : Nat) : Context :=
  { ctx with deadline := some (match ctx.deadline with | some d => min d time | none => time) }

def withLocator (ctx : Context) (locator : String) : Context :=
  { ctx with locator := some locator }

/-- The time that is left at `now`, none once the deadline has passed. -/
def remaining (ctx : Context) (now : Nat) : Option Nat := ctx.deadline.map (· - now)

end Context

/-- What a statement is sent for. -/
inductive StatementKind where
  /-- To be executed; the number of rows that it changes is of interest. -/
  | execute
  /-- For the rows that it returns. -/
  | query
deriving DecidableEq, Repr

/-- A statement that was handed to the driver. -/
structure Dispatch where
  time : Nat
  kind : StatementKind
  sql : String
deriving DecidableEq, Repr

inductive Severity where
  | debug
  | info
  | warn
deriving DecidableEq, Repr

inductive Event where
  | executing (sql account : String)
  /-- The statement was cancelled; its text is left out where statements are not logged. -/
  | cancelled (sql : Option String)
  | foundNotAuthorized (error : String)
  | foundNotPossible (error : String)
  | ancestorExists
  | ancestorMissing (id : String)
  | dropSkipped (id : String)
deriving DecidableEq, Repr

namespace Event

def severity : Event → Severity
  | .executing .. | .cancelled _ | .ancestorExists => .debug
  | .foundNotAuthorized _ | .foundNotPossible _ => .warn
  | .ancestorMissing _ | .dropSkipped _ => .info

def message : Event → String
  | .executing .. => "Executing statement"
  | .cancelled _ => "Statement cancelled"
  | .foundNotAuthorized _ => "classified as object does not exist or not authorized"
  | .foundNotPossible _ => "classified as object does not exist or operation cannot be performed"
  | .ancestorExists => "Ancestor exists"
  | .ancestorMissing _ => "Ancestor does not exist"
  | .dropSkipped _ => "Drop skipped: ancestor already gone"

/-- What an event is about, by name. -/
def details : Event → List (String × String)
  | .executing sql account => [("sql", sql), ("account", account)]
  | .cancelled sql => sql.toList.map (("sql", ·))
  | .foundNotAuthorized error | .foundNotPossible error => [("error", error)]
  | .ancestorExists => []
  | .ancestorMissing id | .dropSkipped id => [("id", id)]

end Event

structure Session where
  now : Nat := 0
  /-- The least token that no context has yet. -/
  nextToken : Nat := 0
  /-- Tokens that are cancelled, each with the time from which on it is. A time that is still to come
  stands for a cancellation that someone will ask for then. -/
  cancellations : List (Nat × Nat) := []
  dispatches : List Dispatch := []
  events : List Event := []
deriving DecidableEq, Repr, Inhabited

namespace Session

/-- A new context that has nothing to do with any other. -/
def newContext (s : Session) : Context × Session :=
  ({ token := s.nextToken }, { s with nextToken := s.nextToken + 1 })

/-- A context that is cancelled together with `ctx`, and can also be cancelled alone. -/
def childOf (s : Session) (ctx : Context) : Context × Session :=
  ({ ctx with token := s.nextToken, above := ctx.tokens }, { s with nextToken := s.nextToken + 1 })

/-- A copy of the context with a deadline `ms` milliseconds from now. -/
def withTimeout (s : Session) (ctx : Context) (ms : Nat) : Context := ctx.withDeadline (s.now + ms)

/-- Cancels the token of the context from `time` on. -/
def cancelAt (s : Session) (ctx : Context) (time : Nat) : Session :=
  { s with cancellations := s.cancellations ++ [(ctx.token, time)] }

def cancel (s : Session) (ctx : Context) : Session := s.cancelAt ctx s.now

/-- The times from which on the context is cancelled, one for each reason. -/
def cancelTimes (s : Session) (ctx : Context) : List Nat :=
  (s.cancellations.filter fun c => ctx.tokens.contains c.1).map (·.2)

/-- The time from which on the context is cancelled, if it ever is. -/
def cancelTime? (s : Session) (ctx : Context) : Option Nat := (s.cancelTimes ctx).min?

def isCancelled (s : Session) (ctx : Context) : Bool :=
  (s.cancelTimes ctx).any fun time => time ≤ s.now

def advance (s : Session) (ms : Nat) : Session := { s with now := s.now + ms }

def log (s : Session) (e : Event) : Session := { s with events := s.events ++ [e] }

end Session

end WarehouseAdmin
