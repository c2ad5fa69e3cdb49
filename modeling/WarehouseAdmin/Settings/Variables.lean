import WarehouseAdmin.Text.Blank
import WarehouseAdmin.Text.Letters
import WarehouseAdmin.Settings.Basic

/-!
# Settings from variables

Each setting has a variable of its own, whose value is trimmed. The variables are looked at in a
fixed order, which decides which of two unusable values is reported. A blank account counts as none.
-/

set_option autoImplicit false

namespace WarehouseAdmin.Settings

/-- The variable that holds the timeout in seconds. -/
def timeoutVariable : String := "SNOWDDL_STATEMENT_TIMEOUT_SECS"

/-- The variable that holds the account. -/
def locatorVariable : String := "SNOWDDL_ACCOUNT_LOCATOR"

/-- The variable that turns the logging of statements on and off. -/
def logVariable : String := "SNOWDDL_LOG_SQL"

def readTimeout (value : String) : Except SettingsError Nat :=
  match Text.readUInt64 (Text.trim value) with
  | some seconds => .ok seconds
  | none => .error (.invalidVariable timeoutVariable value)

def readLocator (value : String) : Option String :=
  if Text.isBlankText value then none else some (Text.trim value)

def readLogging (value : String) : Except SettingsError Bool :=
  let word := Text.lower (Text.trim value)
  if ["1", "true", "yes", "on"].contains word then .ok true
  else if ["0", "false", "no", "off"].contains word then .ok false
  else .error (.invalidVariable logVariable value)

/-- The settings that variables give; `var` looks a variable up. -/
def ofVariables (var : String → Option String) : Except SettingsError Settings := do
  let timeoutSeconds ← (var timeoutVariable).mapM readTimeout
  let logging ← (var logVariable).mapM readLogging
  return {
    timeoutSeconds
    locator := (var locatorVariable).bind readLocator
    logStatements := logging.getD true }

end WarehouseAdmin.Settings
