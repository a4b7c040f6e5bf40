import CaptureForest.CommandLine.Commands
import CaptureForest.CommandLine.Reader
import CaptureForest.CommandLine.Usage
import CaptureForest.Compile.Trace
import CaptureForest.Declaration.Check
import CaptureForest.Load
import CaptureForest.Log.Logger
import CaptureForest.Log.Timer
import CaptureForest.Output.Render
import CaptureForest.Registry.Search
import CaptureForest.SharedSettings
/-!
# Running the program

One run of the program: its arguments are read, the command runs, and what it prints is collected together
with the exit code. A command that fails is reported on the error output, which the logs share.
-/

namespace CaptureForest

namespace CommandLine

/-- What a run of the program finds: variables of the environment, a reader of YAML, files, the callables
that references can name, whether the output is interactive, and time. -/
structure Surroundings where
  environment : List (String × String) := []
  yaml : Load.YamlReader
  files : FileTree := {}
  catalog : Catalog := []
  isInteractive : Bool := false
  stamp : Stamp
  elapsed : Binary64 := .zero false
  errorId : String

namespace Surroundings

def get? (s : Surroundings) (name : String) : Option String := s.environment.lookup name

def terminal (s : Surroundings) : Terminal where
  isInteractive := s.isInteractive
  kind := s.get? "TERM"
  noColor := s.get? "NO_COLOR"
  columns := s.get? "COLUMNS"

/-- Whether errors are to be shown with their texts, and logs with time and source. -/
def debugging (s : Surroundings) : Bool :=
  Text.lower ((s.get? "DECLCAPTURE_DEBUG").getD "false") == "true"

/-- The least level that counts in logs. -/
def logLevel (s : Surroundings) : LogLevel := .ofEnvironment (s.get? "DECLCAPTURE_LOG_LEVEL")

end Surroundings

/-- What a run has printed, its logs being part of the error output, and how it logs progress. -/
structure Session where
  output : String := ""
  logging : Logging
  leastLevel : LogLevel := .warning
  detailed : Bool := false
deriving Repr, Inhabited

abbrev Run := Effect Session

/-- The exit codes of the program. -/
inductive ExitCode where
  | success
  | failure
  | notFound
  | denied
  | unexpected
  | interrupted
deriving DecidableEq, Repr, Inhabited

namespace ExitCode

def number : ExitCode → Int
  | .success => 0
  | .failure => 1
  | .notFound => 2
  | .denied => 3
  | .unexpected => 4
  | .interrupted => 130

end ExitCode

/-- What is left of a run. -/
structure Transcript where
  code : Int
  output : String
  errors : String
deriving DecidableEq, Repr, Inhabited

namespace Session

def print (text : String) (s : Session) : Session := { s with output := s.output ++ text }

def printError (text : String) (s : Session) : Session := { s with logging := s.logging.print text }

/-- A progress message as a line of the log. -/
def logLine (s : Session) (m : LogMessage) : Except Fault String := do
  if s.detailed then
    let time ← s.logging.stamp.toMilliseconds
    return time ++ " - declcapture." ++ m.source ++ " - " ++ m.level.label ++ " - " ++ m.text ++ "\n"
  else return m.text ++ "\n"

/-- Logs a progress message if its level counts. -/
def log (m : LogMessage) (s : Session) : Session :=
  if m.level.atLeast s.leastLevel then
    match s.logLine m with
    | .ok line => s.printError line
    | .error _ => s
  else s

def logAll (messages : List LogMessage) (s : Session) : Session := messages.foldl (fun s m => s.log m) s

/-- Hands an entry to the shared logger. -/
def emit (e : LogEntry) (s : Session) : Session :=
  let (name, logging) := s.logging.getShared
  { s with logging := logging.emit name e }

/-- What a run starts with. -/
def start (world : Surroundings) : Session where
  logging := Logging.share
    { level := world.logLevel, format := if world.debugging then .debug else .human }
    { stamp := world.stamp }
  leastLevel := world.logLevel
  detailed := world.debugging

end Session

namespace Run

def lift {α : Type} : Except Fault α → Run α
  | .ok a => pure a
  | .error e => throw e

/-- Runs a part that may fail with an error of this library. Other faults end the run. -/
def attempt {α : Type} (part : Run α) : Run (Except CaptureError α) :=
  tryCatch (part.map .ok) fun
    | .capture e => return .error e
    | e => throw e

/-- Prints a text in its format. -/
def write (text : Except Fault String) : Run Unit := do
  modify (Session.print (printed (← lift text)))

def presentation (world : Surroundings) (format : String) : Presentation :=
  .ofTerminal ((OutputFormat.ofWord? format).getD .table) world.terminal

/-- The reply of a command that could not do its work. -/
def refusal (e : CaptureError) : Reply where
  success := .bool false
  message := e.message
  data := .record [("error_code", e.code), ("suggested_fix", e.fix)]
  errors := .list [e.message]

def refuse (p : Presentation) (e : CaptureError) : Run ExitCode := do
  write (p.reply (refusal e))
  return .failure

def load (world : Surroundings) (file : String) : Run Value := do
  modify (Session.logAll (Load.trace world.yaml world.files file))
  lift (Load.declarations world.yaml world.catalog world.files file)

def compileForest (plan : Plan) (forest : Value) : Run Compilation := do
  modify (Session.logAll (Compile.trace plan forest))
  lift (Compile.forest plan forest)

def environmentType (world : Surroundings) : Option String := world.get? Settings.environmentName

/-- Compiles a file and prints its entries and hooks. -/
def compile (world : Surroundings) (file format : String) (defaultType : Value) : Run ExitCode := do
  let p := presentation world format
  let timer : Timer Session := ⟨Session.emit, world.elapsed, world.errorId⟩
  let result ← attempt do
    let forest ← load world file
    let overrides := if defaultType.isTruthy then Pairs.fields [("default_type", defaultType)] else []
    let settings ← lift (Settings.ofEnvironment (environmentType world) overrides)
    timer.run "compile" (Pairs.fields [("file", .str file)]) (compileForest settings.plan forest)
  match result with
  | .error e =>
    modify <| Session.log ⟨.info, "cli.commands.compile_templates",
      "Compilation of " ++ file ++ " failed: " ++ e.message.plain⟩
    refuse p e
  | .ok c =>
    let hooks ← lift c.hookDescriptions
    write (p.entries (.list (c.entries.map Entry.description)) (.list hooks))
    return .success

/-- Checks a file and prints the report. -/
def validate (world : Surroundings) (file format : String) : Run ExitCode := do
  let p := presentation world format
  match ← attempt (load world file) with
  | .error e => refuse p e
  | .ok forest =>
    let report ← lift (Report.ofForest forest)
    modify (Session.logAll (Report.trace forest))
    write (p.report report.toRecord)
    return if report.isValid then .success else .failure

/-- Compiles a file and prints the handlers of its hooks that a pattern and phases select. -/
def hooks (world : Surroundings) (file format : String) (pattern phases : Value) : Run ExitCode := do
  let p := presentation world format
  let result ← attempt do
    let forest ← load world file
    let (settings, _) ← lift (SharedSettings.get { environment := environmentType world })
    let c ← compileForest settings.plan forest
    modify (Session.logAll (Registry.trace c.hooks {}))
    let (names, registry) := Registry.registerAll c.hooks {}
    let _ ← lift names
    lift (registry.find pattern (phases.orElse (.str "all")))
  match result with
  | .error e => refuse p e
  | .ok handlers =>
    let descriptions ← lift (handlers.mapM Handler.description)
    write (p.hooks (.list descriptions) (.int handlers.length))
    return .success

/-! ### Failures -/

/-- What is printed about a fault that ends a command. -/
def faultText (debugging : Bool) (e : Fault) : String :=
  let unexpected :=
    if debugging then "Error: " ++ e.kindName ++ ": " ++ e.text
    else "Internal error, set DECLCAPTURE_DEBUG=true for details"
  match e with
  | .host h =>
    match h.kind with
    | .fileNotFound =>
      let name := match h.filename with
        | some file => if file.isTruthy then file.plain else h.text
        | none => h.text
      "Error: file not found: " ++ name
    | .permission => "Error: permission denied: " ++ h.text
    | .interrupt => "Interrupted"
    | _ => unexpected
  | .capture _ => unexpected

def logError (text : String) : Run Unit := modify (Session.log ⟨.error, "cli.main", text⟩)

/-- Reports a fault that ends a command. -/
def report (debugging : Bool) (errorId command : String) (e : Fault) : Run ExitCode := do
  let kind := match e with
    | .host h => h.kind
    | .capture _ => .general
  let text := faultText debugging e
  match kind with
  | .interrupt =>
    modify (Session.log ⟨.debug, "cli.main", command ++ " interrupted by user"⟩)
    modify (Session.printError ("\n" ++ text ++ "\n"))
    return .interrupted
  | .fileNotFound =>
    logError (command ++ ": file not found: " ++ e.text)
    modify (Session.printError (text ++ "\n"))
    return .notFound
  | .permission =>
    logError (command ++ ": permission denied: " ++ e.text)
    modify (Session.printError (text ++ "\n"))
    return .denied
  | _ =>
    let fields := Pairs.fields [("command", .str command)]
    let entry ← lift (LogEntry.ofFault errorId (some (command ++ " failed unexpectedly")) e fields)
    modify (Session.emit entry)
    modify (Session.printError (text ++ "\n"))
    return .unexpected

/-- Runs a command so that every failure becomes an exit code. -/
def safely (debugging : Bool) (errorId command : String) (body : Run Int) : Run Int :=
  tryCatch body fun e => do return (← report debugging errorId command e).number

end Run

/-! ### Whole runs -/

/-- Runs the command that the arguments name. -/
def runCommand (world : Surroundings) (arguments : Pairs) : Run Int := do
  let word (name : String) : String := (Pairs.get name arguments).plain
  let file := word fileOperand.name
  let format := word formatOption.argument
  let name := word Program.commandKey
  let body : Run ExitCode :=
    if name = compileCommand.name then
      Run.compile world file format (Pairs.get defaultTypeOption.argument arguments)
    else if name = validateCommand.name then Run.validate world file format
    else Run.hooks world file format (Pairs.get patternOption.argument arguments)
      (Pairs.get phaseOption.argument arguments)
  Run.safely world.debugging world.errorId name do return (← body).number

/-- The width of help in some surroundings. -/
def Surroundings.helpWidth (world : Surroundings) : Int := CommandLine.helpWidth world.terminal.width

namespace Halt

/-- What is left of a run that ends before its command. -/
def transcript (width : Int) : Halt → Transcript
  | .help s => ⟨0, s.help width, ""⟩
  | .misuse s complaint => ⟨2, "", s.usage width ++ s.program ++ ": error: " ++ complaint ++ "\n"⟩

end Halt

/-- Runs the program with arguments. -/
def run (world : Surroundings) (arguments : List String) : Transcript :=
  match program.read arguments with
  | .error halt => halt.transcript world.helpWidth
  | .ok found =>
    if (Pairs.get versionOption.argument found).isTruthy then
      ⟨0, program.name ++ " " ++ version ++ "\n", ""⟩
    else if (Pairs.get Program.commandKey found).isAbsent then
      ⟨0, program.synopsis.help world.helpWidth, ""⟩
    else
      let (result, s) := (runCommand world found).run (Session.start world)
      ⟨match result with | .ok code => code | .error _ => 1, s.output, s.logging.console⟩

end CommandLine

end CaptureForest
