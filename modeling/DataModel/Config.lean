import DataModel.Environment
import DataModel.Files.Path
import DataModel.Files.System
import DataModel.Yaml.Node

/-!
# Configuration

Where the schema document is read from, where artifacts are written and how the run is logged. A
configuration starts from defaults; a file in YAML changes some of its settings, and variables of
the environment override both.

In the file, a section is a mapping and a setting any scalar, taken as text whatever it looks like.
Unknown keys are passed over; a known key may occur once.
-/

namespace DataModel

/-- Where artifacts are written. -/
structure OutputConfig where
  directory : String := "./generated"
  /-- The file of the statements, inside the directory. -/
  sqlFile : String := "schema.sql"
  /-- The file of the API schema, inside the directory. -/
  schemaFile : String := "schema.graphql"
  deriving Repr, DecidableEq

namespace OutputConfig

/-- The path of the statements. -/
def sqlPath (c : OutputConfig) : String := Files.joinPath c.directory c.sqlFile

/-- The path of the API schema. -/
def schemaPath (c : OutputConfig) : String := Files.joinPath c.directory c.schemaFile

end OutputConfig

/-- How a run is logged, in the words of the settings. -/
structure LoggingConfig where
  level : String := "info"
  format : String := "pretty"
  output : String := "stdout"
  directory : String := "./logs"
  deriving Repr, DecidableEq

/-- A configuration. -/
structure Config where
  schema : String := "schema.graphql"
  output : OutputConfig := {}
  logging : LoggingConfig := {}
  deriving Repr, DecidableEq

/-- Why there is no configuration. -/
inductive ConfigError where
  | unreadable (fault : Files.Fault)
  | malformed
  deriving Repr, DecidableEq

namespace ConfigError

/-- The wording of the underlying error. -/
def cause : ConfigError → String
  | .unreadable fault => fault.message
  | .malformed => "the file is not a configuration"

/-- The wording of an error. -/
def message (e : ConfigError) : String :=
  match e with
  | .unreadable _ => "Failed to read config file: " ++ e.cause
  | .malformed => "Failed to parse YAML: " ++ e.cause

end ConfigError

/-! ### Logging -/

/-- The layout of log lines. -/
inductive LogFormat where
  | pretty
  | json
  | compact
  deriving Repr, DecidableEq

/-- The layout that a setting asks for; an unknown one is the default. -/
def LogFormat.ofSetting : Option String → LogFormat
  | some "json" => .json
  | some "compact" => .compact
  | _ => .pretty

/-- Where log lines go. -/
inductive LogOutput where
  | stdout
  | file
  | both
  deriving Repr, DecidableEq

/-- The destination that a setting asks for; an unknown one is the default. -/
def LogOutput.ofSetting : Option String → LogOutput
  | some "file" => .file
  | some "both" => .both
  | _ => .stdout

namespace Config

/-- The name of the file that is looked for where none is given. -/
def defaultFile : String := "schemagen.yaml"

/-- The variable for the log level. -/
def levelVariable : String := "RUST_LOG"

/-- The variable for the layout of log lines. -/
def formatVariable : String := "LOG_FORMAT"

/-- The variable for the destination of log lines. -/
def outputVariable : String := "LOG_OUTPUT"

/-- The variable for the directory of log files. -/
def directoryVariable : String := "LOG_DIR"

/-- The variable for the path of the schema document. -/
def schemaVariable : String := "SCHEMAGEN_SCHEMA"

/-- The variable for the output directory. -/
def outDirVariable : String := "SCHEMAGEN_OUT_DIR"

/-- The variable for the file of the statements. -/
def sqlFileVariable : String := "SCHEMAGEN_SQL_FILE"

/-- The variable for the file of the API schema. -/
def schemaFileVariable : String := "SCHEMAGEN_GRAPHQL_FILE"

/-- The layout of log lines in an environment. -/
def logFormat (env : Environment) : LogFormat := .ofSetting (env.lookup formatVariable)

/-- Where log lines go in an environment. -/
def logOutput (env : Environment) : LogOutput := .ofSetting (env.lookup outputVariable)

/-- The settings of a configuration as the variables of the environment override them. -/
def overriddenBy (c : Config) (env : Environment) : Config where
  schema := (env.lookup schemaVariable).getD c.schema
  output := {
    directory := (env.lookup outDirVariable).getD c.output.directory
    sqlFile := (env.lookup sqlFileVariable).getD c.output.sqlFile
    schemaFile := (env.lookup schemaFileVariable).getD c.output.schemaFile }
  logging := {
    level := (env.lookup levelVariable).getD c.logging.level
    format := (env.lookup formatVariable).getD c.logging.format
    output := (env.lookup outputVariable).getD c.logging.output
    directory := (env.lookup directoryVariable).getD c.logging.directory }

/-- The environment in which the logging settings of a configuration hold, if all of them can be
set. -/
def exportLogging (c : Config) (env : Environment) : Option Environment := do
  let env ← env.set? levelVariable c.logging.level
  let env ← env.set? formatVariable c.logging.format
  let env ← env.set? outputVariable c.logging.output
  env.set? directoryVariable c.logging.directory

/-! ### Reading -/

section Nodes

variable (d : Yaml.Document)

/-- The text of a scalar. -/
def text? (node : Yaml.Node) : Option String :=
  match d.resolve node with
  | .scalar text _ => some text
  | _ => none

/-- The entries of a section under their names. A section that is left empty has none. -/
def section? (node : Yaml.Node) : Option (List (String × Yaml.Node)) :=
  match d.resolve node with
  | .mapping entries => entries.mapM fun (key, value) => (text? d key).map (·, value)
  | .scalar text true => if text.isEmpty then some [] else none
  | _ => none

/-- What a known key stands for: the value of its only entry, or a default where it has none. -/
def entry? {α : Type} (read : Yaml.Node → Option α) (default : α) (key : String)
    (entries : List (String × Yaml.Node)) : Option α :=
  match entries.filter (·.1 == key) with
  | [] => some default
  | [(_, value)] => read value
  | _ => none

/-- The output section. -/
def outputOf? (node : Yaml.Node) : Option OutputConfig := do
  let entries ← section? d node
  let default : OutputConfig := {}
  return {
    directory := ← entry? (text? d) default.directory "directory" entries
    sqlFile := ← entry? (text? d) default.sqlFile "sql_file" entries
    schemaFile := ← entry? (text? d) default.schemaFile "graphql_file" entries }

/-- The logging section. -/
def loggingOf? (node : Yaml.Node) : Option LoggingConfig := do
  let entries ← section? d node
  let default : LoggingConfig := {}
  return {
    level := ← entry? (text? d) default.level "level" entries
    format := ← entry? (text? d) default.format "format" entries
    output := ← entry? (text? d) default.output "output" entries
    directory := ← entry? (text? d) default.directory "directory" entries }

/-- The input section: the path of the schema document. -/
def inputOf? (node : Yaml.Node) : Option String := do
  let entries ← section? d node
  entry? (text? d) ({} : Config).schema "schema" entries

/-- The configuration in a document. -/
def ofDocument? : Option Config := do
  let entries ← section? d d.root
  let default : Config := {}
  return {
    schema := ← entry? (inputOf? d) default.schema "input" entries
    output := ← entry? (outputOf? d) default.output "output" entries
    logging := ← entry? (loggingOf? d) default.logging "logging" entries }

end Nodes

/-- The configuration in a text; a text without a document changes no default. -/
def parse? (text : String) : Option Config := do
  match ← Yaml.Document.parse text with
  | none => return {}
  | some d => ofDocument? d

section Files

variable {m : Type → Type} [Monad m] {Handle : Type} (files : Files.System m Handle)
  (parse : String → Option Config) (env : Environment)

/-- The configuration in a file, as `parse` reads it, overridden by the environment. -/
def load (path : String) : m (Except ConfigError Config) := do
  match ← files.read path with
  | .error fault => return .error (.unreadable fault)
  | .ok text =>
    match parse text with
    | none => return .error .malformed
    | some c => return .ok (c.overriddenBy env)

/-- The configuration in the given file; where none is given, in the default file if anything stands
there, and otherwise from the environment alone. -/
def discover (path : Option String) : m (Except ConfigError Config) := do
  match path with
  | some path => load files parse env path
  | none =>
    match ← files.isRegular defaultFile with
    | .ok _ => load files parse env defaultFile
    | .error _ => return .ok (({} : Config).overriddenBy env)

end Files

end Config

end DataModel
