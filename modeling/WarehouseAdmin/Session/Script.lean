import WarehouseAdmin.Text.Letters
import WarehouseAdmin.Session.Driver

/-!
# Scripted drivers

A scripted driver answers from a list of rules. The first rule whose text occurs in the statement
says what it does; where no rule says anything, it answers at once that nothing was changed or found.
-/

set_option autoImplicit false

namespace WarehouseAdmin

/-- What is done with the statements in which a text occurs. -/
structure Rule where
  text : String
  behaviour : Behaviour

/-- The driver that follows the rules. -/
def Driver.scripted (rules : List Rule) : Driver where
  respond _ d :=
    match rules.find? fun r => Text.contains d.sql r.text with
    | some r => r.behaviour
    | none => {}

end WarehouseAdmin
