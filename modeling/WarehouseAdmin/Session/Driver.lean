import WarehouseAdmin.Session.Basic

/-!
# Drivers

A driver is handed a statement and answers it after some time, or never. What it does may depend on
everything it was handed before. It may also cancel the context that the statement runs under, or one
that this is a child of, when it is handed the statement or at any time until it answers.

A driver works in steps, the first of which it takes when it is first asked for the answer; before that
it does nothing about the statement. What it does at one time it does in one step.
-/

set_option autoImplicit false

namespace WarehouseAdmin

/-- A driver's answer: what was changed, and what was found. -/
structure Answer where
  affected : Nat := 0
  rows : List Row := []
deriving Repr, Inhabited

/-- What a driver does with a statement. -/
structure Behaviour where
  /-- The milliseconds until it cancels the context, if it ever does. -/
  cancels : Option Nat := none
  /-- Which context this is: that of the statement, or the one so many above it, if there is one. -/
  above : Nat := 0
  /-- The milliseconds until it answers, if it ever does. -/
  delay : Option Nat := some 0
  answer : Except DriverError Answer := .ok {}
deriving Inhabited

/-- A driver: what it does with a statement, after those that it was handed before. -/
structure Driver where
  respond : List Dispatch → Dispatch → Behaviour

end WarehouseAdmin
