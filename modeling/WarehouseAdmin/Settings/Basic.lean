import WarehouseAdmin.Time.Span

/-!
# Settings

What applies to every statement of a client, unless its context says otherwise. Settings come from a
document or from variables; what neither gives keeps its default.
-/

set_option autoImplicit false

namespace WarehouseAdmin

open Time

structure Settings where
  /-- The seconds after which a statement is given up, where the context has no deadline. -/
  timeoutSeconds : Option Nat := none
  /-- The account, where the context names none. -/
  locator : Option String := none
  /-- Statements are logged with their text. -/
  logStatements : Bool := true
deriving DecidableEq, Repr, Inhabited

/-- The time after which a statement is given up. -/
def Settings.timeout (s : Settings) : Option Span := s.timeoutSeconds.map Span.ofSeconds

inductive SettingsError where
  | invalidDocument
  | invalidVariable (name value : String)
deriving DecidableEq, Repr

def SettingsError.message : SettingsError → String
  | .invalidDocument => "invalid config JSON"
  | .invalidVariable name value => "invalid value `" ++ value ++ "` for " ++ name

end WarehouseAdmin
