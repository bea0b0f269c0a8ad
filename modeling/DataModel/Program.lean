import DataModel.CommandLine
import DataModel.Pipeline

/-!
# The program

What the command does, for any file system: settings from a file are added to the environment, the
command line is read, the configuration is found, logging is started, and the schema document is
compiled and its artifacts are written. The first of these that fails ends the run.

What a command line, a file of settings and a configuration say is for libraries to read, and so is
what the log says. A run is given them as `Readers` and a `Journal`; `Readers.standard` are the ones
of this development.

An error is reported with its causes, outermost first. A run that cannot go on for a reason that has
no wording is aborted without a report.
-/

namespace DataModel

open Files

namespace Program

/-- How a run ends. -/
inductive Outcome where
  | success
  /-- Help or the version was asked for. -/
  | informed
  /-- The run failed; the report says why. -/
  | failure (report : String)
  /-- The command line is refused. -/
  | usage
  | aborted
  deriving Repr, DecidableEq

/-- The exit code of an outcome. -/
def Outcome.exitCode : Outcome → UInt32
  | .success => 0
  | .informed => 0
  | .failure _ => 1
  | .usage => 2
  | .aborted => 101

/-! ### Reports -/

/-- A text whose lines after the first are indented. -/
def indentLines (width : Nat) (text : String) : String :=
  String.ofList (text.toList.flatMap fun c =>
    if c = '\n' then '\n' :: List.replicate width ' ' else [c])

/-- The causes after the first, with their numbers. -/
def numbered (n : Nat) : List String → String
  | [] => ""
  | cause :: rest =>
    let number := toString n
    "\n" ++ String.ofList (List.replicate (5 - number.length) ' ') ++ number ++ ": " ++
      indentLines 7 cause ++ numbered (n + 1) rest

/-- A message with its causes: a single one stands alone, several are numbered. -/
def report (message : String) (causes : List String) : String :=
  "Error: " ++ message ++
    (match causes with
      | [] => ""
      | [cause] => "\n\nCaused by:\n    " ++ indentLines 4 cause
      | causes => "\n\nCaused by:" ++ numbered 0 causes) ++
    "\n"

/-- The report of a configuration that was not found. -/
def configReport (e : ConfigError) : String :=
  report "loading configuration" [e.message, e.cause]

/-- How a run ends on an error of the pipeline, where `context` tells what was being done. -/
def failureOf (context : Option String) (e : PipelineError) : Outcome :=
  match e with
  | .compile (.api (.repeatedField ..)) => .aborted
  | e =>
    match context with
    | some context => .failure (report context (e.message :: e.cause?.toList))
    | none => .failure (report e.message e.cause?.toList)

/-! ### Runs -/

/-- The libraries that read what a run is given. -/
structure Readers where
  /-- What a command line asks for. -/
  choice : List String → CommandLine.Choice
  /-- The environment with the settings of a file, if all of them can be set. -/
  settings : Environment → String → Option Environment
  /-- The configuration in a text. -/
  config : String → Option Config

/-- The readers of this development. -/
def Readers.standard : Readers := ⟨CommandLine.parse, Environment.load, Config.parse?⟩

/-- The name of the file of settings that are added to the environment. -/
def settingsFile : String := ".env"

/-- Which artifacts a command line asks for. -/
def targets (o : CommandLine.Options) : Targets :=
  if o.has .sqlOnly then .sqlOnly else if o.has .schemaOnly then .schemaOnly else .both

/-- The configuration with what the command line changes in it. -/
def adjust (c : Config) (o : CommandLine.Options) : Config :=
  { c with
    schema := (o.value? .schema).getD c.schema
    output := { c.output with directory := (o.value? .outDir).getD c.output.directory } }

section Runs

variable {m : Type → Type} [Monad m] {Handle : Type} (files : System m Handle) (readers : Readers)
  (journal : Journal)

/-- The first regular file of settings in these directories. A directory of that name is passed over,
but the search ends where it cannot be told what stands there. -/
def findSettings : List String → m (Option String)
  | [] => return none
  | directory :: rest => do
    let path := joinPath directory settingsFile
    match ← files.isRegular path with
    | .ok true => return some path
    | .ok false => findSettings rest
    | .error fault => if fault = .notFound then findSettings rest else return none

/-- The environment with the settings from the file in the working directory, or in the next
directory above it that has one. Nothing if one of them cannot be set. -/
def loadSettings (env : Environment) : m (Option Environment) := do
  match ← findSettings files (withParents (← files.workingDirectory)) with
  | none => return some env
  | some path =>
    match ← files.readLines path with
    | .ok text => return readers.settings env text
    | .error _ => return some env

/-- Opens the log file where one is wanted. -/
def startLog (env : Environment) : m (Except Fault (Option Handle)) := do
  match Config.logOutput env with
  | .stdout => return .ok none
  | _ =>
    let directory := (env.lookup Config.directoryVariable).getD ({} : LoggingConfig).directory
    return (← journal.openFile files directory).map some

/-- Compiles, and writes unless the command line only asks for a check. -/
def compileAndWrite (log : Option Handle) (c : Config) (o : CommandLine.Options) : m Outcome := do
  let note := journal.note files log
  match ← Artifacts.compileFile files note c.schema (targets o) with
  | .error e => return failureOf (some ("compiling " ++ c.schema)) e
  | .ok a =>
    if o.has .check then
      note .finished
      return .success
    else
      match ← a.write files note c.output with
      | .error e => return failureOf none e
      | .ok _ =>
        note .finished
        return .success

/-- A run whose configuration has been found. -/
def runConfigured (env : Environment) (c : Config) (o : CommandLine.Options) : m Outcome := do
  match c.exportLogging env with
  | none => return .aborted
  | some env =>
    match ← startLog files journal env with
    | .error _ => return .aborted
    | .ok log =>
      journal.note files log .started
      compileAndWrite files journal log c o

/-- A run of the program. -/
def run (env : Environment) (arguments : List String) : m Outcome := do
  match ← loadSettings files readers env with
  | none => return .aborted
  | some env =>
    match readers.choice arguments with
    | .inform => return .informed
    | .refuse => return .usage
    | .run o =>
      match ← Config.discover files readers.config env (o.value? .config) with
      | .error e => return .failure (configReport e)
      | .ok found => runConfigured files journal env (adjust found o) o

end Runs

end Program

end DataModel
