import WarehouseAdmin.Json.Reader
import WarehouseAdmin.Settings.Basic

/-!
# Settings from a document

The document is a JSON object with a member for each setting, or an array of the settings in order;
either may leave settings out. Members that are no settings are ignored, as long as their keys are
texts, and no setting is given twice.
-/

set_option autoImplicit false

namespace WarehouseAdmin.Settings

open Json

/-- The keys of the settings, in order. -/
def keys : List String := ["statement_timeout_secs", "account_locator", "log_sql"]

/-- The timeout that a value gives: none if it is null or left out. -/
def timeoutOf? : Option Value → Option (Option Nat)
  | none | some .null => some none
  | some (.number (some n)) =>
    if 0 ≤ n ∧ n ≤ 18446744073709551615 then some (some n.toNat) else none
  | some _ => none

/-- The account that a value gives: none if it is null or left out. -/
def locatorOf? : Option Value → Option (Option String)
  | none | some .null => some none
  | some (.text (some s)) => some (some s)
  | some _ => none

/-- The flag that a value gives: it holds if the value is left out. -/
def loggingOf? : Option Value → Option Bool
  | none => some true
  | some (.bool b) => some b
  | some _ => none

/-- The settings given by their values, each of which may be left out. -/
def ofValues? (timeout locator logging : Option Value) : Option Settings := do
  let timeoutSeconds ← timeoutOf? timeout
  let locator ← locatorOf? locator
  let logStatements ← loggingOf? logging
  return { timeoutSeconds, locator, logStatements }

/-- Says whether all keys are texts and no setting is given twice. -/
def wellKeyed (members : List (Option String × Value)) : Bool :=
  members.all (·.1.isSome) && keys.all fun k => members.countP (·.1 == some k) ≤ 1

/-- The value of a member, if there is such a member. -/
def member? (members : List (Option String × Value)) (key : String) : Option Value :=
  (members.find? (·.1 == some key)).map (·.2)

def ofValue? : Value → Option Settings
  | .object members =>
    if wellKeyed members then
      ofValues? (member? members "statement_timeout_secs") (member? members "account_locator")
        (member? members "log_sql")
    else none
  | .array items => if items.length ≤ 3 then ofValues? items[0]? items[1]? items[2]? else none
  | _ => none

def ofDocument (document : String) : Except SettingsError Settings :=
  match (Json.read document).bind ofValue? with
  | some settings => .ok settings
  | none => .error .invalidDocument

end WarehouseAdmin.Settings
