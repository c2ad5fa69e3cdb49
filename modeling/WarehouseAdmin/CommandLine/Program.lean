import WarehouseAdmin.Settings.Variables
import WarehouseAdmin.Settings.Document
import WarehouseAdmin.CommandLine.Reader

/-!
# The program

The program prints the statement of a command, or how an identifier is read. With a database to
connect to it goes on to send the statement, under settings from a file if one is named and from
variables otherwise. What it would do is computed here from its arguments, its variables and its
files, and carried out elsewhere.
-/

set_option autoImplicit false

namespace WarehouseAdmin.CommandLine

/-- The options that stand before the command. -/
structure Options where
  url : Option String := none
  settingsPath : Option String := none
  verbose : Bool := false
deriving DecidableEq, Repr, Inhabited

/-- What the arguments ask for. -/
inductive Invocation where
  | version
  | command (options : Options) (command : Command)
deriving Repr

namespace Options

/-- Adds the database to connect to, unless there is one. -/
def addUrl (o : Options) (url : String) : Option Options :=
  if o.url.isSome then none else some { o with url := some url }

/-- Adds the file with the settings, unless there is one; its path is not empty. -/
def addPath (o : Options) (path : String) : Option Options :=
  if o.settingsPath.isSome || path == "" then none else some { o with settingsPath := some path }

/-- Turns on messages about what is done, unless they are on. -/
def addVerbose (o : Options) : Option Options :=
  if o.verbose then none else some { o with verbose := true }

end Options

/-- What comes of an argument before the command. -/
inductive Progress where
  | read (o : Options)
  | awaitUrl (o : Options)
  | awaitPath (o : Options)
  | version

/-- Reads short options that are written together. -/
def readShort (o : Options) : List Char → Option Progress
  | [] => some (.read o)
  | 'v' :: rest => o.addVerbose.bind fun o => readShort o rest
  | 'V' :: _ => some .version
  | ['c'] => some (.awaitPath o)
  | 'c' :: '=' :: path => (o.addPath (String.ofList path)).map .read
  | 'c' :: path => (o.addPath (String.ofList path)).map .read
  | _ => none

def readLong (o : Options) : String → Option String → Option Progress
  | "database-url", some url => (o.addUrl url).map .read
  | "database-url", none => some (.awaitUrl o)
  | "config", some path => (o.addPath path).map .read
  | "config", none => some (.awaitPath o)
  | "verbose", none => o.addVerbose.map .read
  | "version", none => some .version
  | _, _ => none

def readOption (o : Options) (arg : String) : Option Progress :=
  match longOption? arg with
  | some (name, value) => readLong o name value
  | none => readShort o (arg.toList.drop 1)

/-- Reads arguments after those that led to `progress`. -/
def readInvocation : Progress → List String → Option Invocation
  | .version, _ => some .version
  | _, [] => none
  | .awaitUrl o, arg :: rest =>
    if looksLikeOption arg then none
    else (o.addUrl arg).bind fun o => readInvocation (.read o) rest
  | .awaitPath o, arg :: rest =>
    if looksLikeOption arg then none
    else (o.addPath arg).bind fun o => readInvocation (.read o) rest
  | .read o, arg :: rest =>
    if looksLikeOption arg then (readOption o arg).bind fun p => readInvocation p rest
    else (Command.read (arg :: rest)).map (.command o)

def Invocation.read (args : List String) : Option Invocation := readInvocation (.read {}) args

/-- What the program leaves behind. -/
structure Report where
  exitCode : Nat
  stdout : String := ""
  stderr : String := ""
deriving DecidableEq, Repr

/-- What the program does. -/
inductive Plan where
  | finish (r : Report)
  /-- It prints a text, and sends the statement to the database. -/
  | send (stdout url : String) (settings : Settings) (statement : Statement)

def urlVariable : String := "SNOWDDL_DATABASE_URL"

/-- A text of lines, each with its end. -/
def unlines (lines : List String) : String := String.join (lines.map (· ++ "\n"))

/-- A cause, each line of it moved in. -/
def causeText (cause : String) : String :=
  "\n\nCaused by:\n    " ++
    String.ofList (cause.toList.flatMap fun c => if c = '\n' then "\n    ".toList else [c])

/-- A failure of the program, which has printed `stdout` before. -/
def failing (stdout message : String) (causes : List String) : Report where
  exitCode := 1
  stdout := stdout
  stderr := "Error: " ++ message ++ String.join (causes.map causeText) ++ "\n"

/-- The failure that an error causes. -/
def failingWith (e : Error) : Report := failing "" e.message e.sources

/-- Why settings cannot be loaded: a message, and its causes. -/
abbrev Trouble : Type := String × List String

/-- The settings for a command; `readFile` gives the contents of a file, or why there are none. -/
def loadSettings (path : Option String) (var : String → Option String)
    (readFile : String → Except String String) : Except Trouble Settings :=
  match path with
  | none => (Settings.ofVariables var).mapError fun e => (e.message, [])
  | some path =>
    match readFile path with
    | .error reason => .error ("reading config file " ++ path, [reason])
    | .ok document => (Settings.ofDocument document).mapError fun e => (e.message, [])

def planStatement (o : Options) (s : Statement) (var : String → Option String)
    (readFile : String → Except String String) : Plan :=
  let stdout := s.sql ++ ";\n"
  match o.url <|> var urlVariable with
  | none =>
    .finish {
      exitCode := 0
      stdout :=
        if o.verbose then stdout ++ "DEBUG No database URL, statement not executed\n"
        else stdout }
  | some url =>
    match loadSettings o.settingsPath var readFile with
    | .error (message, causes) => .finish (failing stdout message causes)
    | .ok settings => .send stdout url settings s

def planCommand (o : Options) (c : Command) (var : String → Option String)
    (readFile : String → Except String String) : Plan :=
  match c with
  | .identifier input =>
    match describeIdentifier input with
    | .ok lines => .finish { exitCode := 0, stdout := unlines lines }
    | .error e => .finish (failingWith e)
  | c =>
    match c.statement? with
    | .ok (some s) => planStatement o s var readFile
    | .ok none => .finish { exitCode := 0 }
    | .error e => .finish (failingWith e)

/-- What is said about arguments that make no command. -/
def usageText : String :=
  "error: the arguments make no command\n\n" ++
    "Usage: snowddl [--database-url URL] [--config PATH] [--verbose] KIND VERB [ARGUMENTS]\n" ++
    "       snowddl ident IDENTIFIER\n"

/-- What the program does when it is called with the arguments. -/
def plan (args : List String) (var : String → Option String)
    (readFile : String → Except String String) : Plan :=
  match Invocation.read args with
  | none => .finish { exitCode := 2, stderr := usageText }
  | some .version => .finish { exitCode := 0, stdout := "snowddl 0.1.0\n" }
  | some (.command o c) => planCommand o c var readFile

end WarehouseAdmin.CommandLine
