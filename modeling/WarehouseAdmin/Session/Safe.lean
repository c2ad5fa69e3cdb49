import WarehouseAdmin.Session.Resources

/-!
# Telling which level is missing

A server gives one and the same answer when an object is missing, when its schema is, when its
database is, and when they may not be seen. So when a look-up or a drop fails in this way, what
contains the object is looked up as well, innermost first, until one is known to be missing. A drop
then counts as done, because the object is gone together with what contained it.
-/

set_option autoImplicit false

namespace WarehouseAdmin

/-- What was found out about the containers of an object. -/
structure Walk where
  /-- The errors of the look-ups, in order. -/
  errors : List Error := []
  /-- The last container that was looked up is missing. -/
  missing : Bool := false

/-- Puts an error before those of a walk. -/
def Walk.after (w : Walk) (e : Error) : Walk := { w with errors := e :: w.errors }

namespace Client

/-- Looks a container up. -/
def probe (c : Client) (ctx : Context) : Ancestor → Operation Unit
  | .schema id => do let _ ← c.find Schema ctx id
  | .database id => do let _ ← c.find Database ctx id

/-- Looks the containers of the object `id` up, until one is missing. -/
def walk (c : Client) (ctx : Context) (id : Identifier) : List Ancestor → Operation Walk
  | [] => return {}
  | a :: rest => do
    match ← (c.probe ctx a).attempt with
    | .ok () =>
      Operation.log .ancestorExists
      c.walk ctx id rest
    | .error e =>
      if e.is .objectNotFound then
        Operation.log (.ancestorMissing id.qualifiedName)
        return { errors := [e], missing := true }
      else return (← c.walk ctx id rest).after e

/-- The error of an operation together with those of a walk. -/
def explained (e : Error) (w : Walk) : Error := (Error.join (e :: w.errors)).getD (.joined [])

/-- Says whether a look-up failed in a way that leaves open what is missing. -/
def isAmbiguous (k : ErrorKind) : Bool :=
  k == .notExistOrNotAuthorized || k == .notExistOrNotPossible

/-- Looks an object up; where it is open what is missing, its containers are looked up as well and
all errors are joined. -/
def safely {α : Type} (c : Client) (ctx : Context) (id : Identifier) (find : Operation α) :
    Operation α := do
  match ← find.attempt with
  | .ok a => return a
  | .error e =>
    if isAmbiguous e.kind then
      let w ← c.walk ctx id id.ancestors
      Operation.fail (explained e w)
    else Operation.fail e

/-- Drops an object; the drop counts as done when a container of the object is missing. -/
def dropSafely (c : Client) (ctx : Context) (id : Identifier) (drop : Operation Unit) :
    Operation Unit := do
  match ← drop.attempt with
  | .ok () => return ()
  | .error e =>
    if e.kind = .notExistOrNotAuthorized then
      let w ← c.walk ctx id id.ancestors
      if w.missing then Operation.log (.dropSkipped id.qualifiedName)
      else Operation.fail (explained e w)
    else Operation.fail e

end Client

end WarehouseAdmin
