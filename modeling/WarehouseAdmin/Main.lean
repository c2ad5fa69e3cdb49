import WarehouseAdmin.CommandLine.Program

/-!
# The program's outer layer

Fetches the arguments, the variables and the file that the settings may come from, and prints what
the plan says. No driver for real databases is built in, so a statement that is to be sent ends in an
error after it was printed.
-/

set_option autoImplicit false

namespace WarehouseAdmin.CommandLine

def variableNames : List String :=
  [urlVariable, Settings.timeoutVariable, Settings.locatorVariable, Settings.logVariable]

def fetchVariables : IO (List (String × String)) := do
  let pairs ← variableNames.mapM fun name => return (← IO.getEnv name).map (name, ·)
  return pairs.filterMap id

/-- The path of the file that the arguments name for the settings. -/
def settingsPath? (args : List String) : Option String :=
  match Invocation.read args with
  | some (.command o _) => o.settingsPath
  | _ => none

def fileTrouble : IO.Error → String
  | .noFileOrDirectory .. => "No such file or directory (os error 2)"
  | e => toString e

/-- The contents of a file, or why there are none. -/
def fetchFile (path : String) : IO (Except String String) := do
  try
    return .ok (← IO.FS.readFile path)
  catch e =>
    return .error (fileTrouble e)

def printReport (r : Report) : IO UInt32 := do
  IO.print r.stdout
  IO.eprint r.stderr
  return r.exitCode.toUInt32

def runProgram (args : List String) : IO UInt32 := do
  let pairs ← fetchVariables
  let file ← match settingsPath? args with
    | some path => fetchFile path
    | none => pure (.ok "")
  match plan args (fun name => pairs.lookup name) (fun _ => file) with
  | .finish r => printReport r
  | .send stdout url _ _ => printReport (failing stdout ("no driver for " ++ url) [])

end WarehouseAdmin.CommandLine

def main (args : List String) : IO UInt32 := WarehouseAdmin.CommandLine.runProgram args
