import WarehouseAdmin.Session.Basic

/-!
# Operations

An operation runs in a session and leaves it changed. It comes to a result, fails, or waits for ever
for an answer that never comes. One operation after another runs until the first that does not come
to a result.
-/

set_option autoImplicit false

namespace WarehouseAdmin

/-- What an operation comes to. -/
inductive Outcome (α : Type) where
  | done (a : α)
  | failed (e : Error)
  /-- The operation waits for ever. -/
  | never
deriving Repr

/-- Something that runs in a session. -/
def Operation (α : Type) : Type := Session → Outcome α × Session

namespace Operation

variable {α β : Type}

def result (a : α) : Operation α := fun s => (.done a, s)

def fail (e : Error) : Operation α := fun s => (.failed e, s)

/-- Runs `op`, and goes on with its result. -/
def andThen (op : Operation α) (next : α → Operation β) : Operation β := fun s =>
  match op s with
  | (.done a, s) => next a s
  | (.failed e, s) => (.failed e, s)
  | (.never, s) => (.never, s)

instance : Monad Operation where
  pure := result
  bind := andThen

/-- The result of a computation that needs no session. -/
def ofExcept : Except Error α → Operation α
  | .ok a => result a
  | .error e => fail e

/-- Runs `op` and gives its error as a result, if it fails. -/
def attempt (op : Operation α) : Operation (Except Error α) := fun s =>
  match op s with
  | (.done a, s) => (.done (.ok a), s)
  | (.failed e, s) => (.done (.error e), s)
  | (.never, s) => (.never, s)

def log (e : Event) : Operation Unit := fun s => (.done (), s.log e)

end Operation

end WarehouseAdmin
