/-!
# Arguments of a command

A command takes options and positional arguments in any order. An option is written `--name`, and
its value follows it as the next argument or after an equals sign; a flag has no value. A value that
is an argument of its own must not look like an option, and nor must a positional argument, unless
it stands behind `--`. Only a repeatable option may be given twice.
-/

set_option autoImplicit false

namespace WarehouseAdmin.CommandLine

/-- What an option takes. -/
inductive Takes where
  | nothing
  | value
  /-- A value each time it is given. -/
  | values
deriving DecidableEq, Repr

/-- What a command takes: its options by their names, and the number of positional arguments. -/
structure Usage where
  options : List (String × Takes) := []
  positionals : Nat := 0
deriving Repr

/-- What a command was given, in order. -/
structure Arguments where
  flags : List String := []
  values : List (String × String) := []
  positionals : List String := []
deriving DecidableEq, Repr, Inhabited

namespace Arguments

def has (a : Arguments) (name : String) : Bool :=
  a.flags.contains name || a.values.any (·.1 == name)

def addFlag (a : Arguments) (name : String) : Arguments := { a with flags := a.flags ++ [name] }

def addValue (a : Arguments) (name value : String) : Arguments :=
  { a with values := a.values ++ [(name, value)] }

def addPositionals (a : Arguments) (args : List String) : Arguments :=
  { a with positionals := a.positionals ++ args }

/-! ## Reading what was given -/

/-- A flag that holds if it was given, and otherwise is left open. -/
def flag (a : Arguments) (name : String) : Option Bool := if a.has name then some true else none

/-- The value of an option that may be left out; fails if it was given and cannot be read. -/
def optional {α : Type} (a : Arguments) (name : String) (read : String → Option α) :
    Option (Option α) :=
  match a.values.lookup name with
  | none => some none
  | some value => (read value).map some

/-- The value of an option that must be given. -/
def required {α : Type} (a : Arguments) (name : String) (read : String → Option α) : Option α :=
  (a.values.lookup name).bind read

def all (a : Arguments) (name : String) : List String :=
  (a.values.filter (·.1 == name)).map (·.2)

def positional {α : Type} (a : Arguments) (index : Nat) (read : String → Option α) : Option α :=
  (a.positionals[index]?).bind read

end Arguments

/-- Says whether an argument looks like an option. A hyphen alone does not. -/
def looksLikeOption (arg : String) : Bool := arg.toList.head? == some '-' && arg != "-"

/-- Takes a long option apart: its name, and the value behind an equals sign if there is one. -/
def longOption? (arg : String) : Option (String × Option String) :=
  match arg.toList with
  | '-' :: '-' :: body =>
    let name := String.ofList (body.takeWhile (· != '='))
    match body.dropWhile (· != '=') with
    | [] => some (name, none)
    | _ :: value => some (name, some (String.ofList value))
  | _ => none

/-- What an option takes, if it may be given after `a`. -/
def Usage.takes? (u : Usage) (a : Arguments) (name : String) : Option Takes :=
  (u.options.lookup name).filter fun takes => takes == .values || !a.has name

/-- Reads the arguments that follow those in `a`; `awaiting` is the option whose value comes next. -/
def Usage.readFrom (u : Usage) (a : Arguments) (awaiting : Option String) :
    List String → Option Arguments
  | [] => if awaiting.isSome then none else some a
  | arg :: rest =>
    match awaiting with
    | some name =>
      if looksLikeOption arg then none else u.readFrom (a.addValue name arg) none rest
    | none =>
      if arg = "--" then some (a.addPositionals rest)
      else
        match longOption? arg with
        | some (name, value) =>
          match u.takes? a name, value with
          | some .nothing, none => u.readFrom (a.addFlag name) none rest
          | some .nothing, some _ | none, _ => none
          | some _, some v => u.readFrom (a.addValue name v) none rest
          | some _, none => u.readFrom a (some name) rest
        | none =>
          if looksLikeOption arg then none else u.readFrom (a.addPositionals [arg]) none rest

def Usage.read (u : Usage) (args : List String) : Option Arguments :=
  (u.readFrom {} none args).filter fun a => a.positionals.length == u.positionals

example : ({ options := [("size", .value)], positionals := 1 } : Usage).read
    ["--size=-1", "W"] = some { values := [("size", "-1")], positionals := ["W"] } := by
  decide +kernel

end WarehouseAdmin.CommandLine
