/-!
# Command lines

The options of the program. Those that take a value accept it in the next argument or attached to
their own; every option may be given once. Whatever is wrong with a command line, it is refused as
a whole, unless help or the version is asked for before the mistake.
-/

namespace DataModel.CommandLine

/-- An option that takes a value. -/
inductive Setting where
  | config
  | schema
  | outDir
  deriving Repr, DecidableEq

/-- An option that takes none. -/
inductive Switch where
  | sqlOnly
  | schemaOnly
  | check
  deriving Repr, DecidableEq

/-- The long and short names of the options with a value. -/
def settings : List (Setting × String × Char) :=
  [(.config, "config", 'c'), (.schema, "schema", 's'), (.outDir, "out-dir", 'o')]

/-- The names of the options without a value. -/
def switches : List (Switch × String) :=
  [(.sqlOnly, "sql-only"), (.schemaOnly, "graphql-only"), (.check, "check")]

/-- What a command line asks for. -/
structure Options where
  values : List (Setting × String) := []
  switches : List Switch := []
  deriving Repr, DecidableEq

namespace Options

/-- The value of an option. -/
def value? (o : Options) (s : Setting) : Option String := o.values.lookup s

/-- Whether an option is given. -/
def has (o : Options) (s : Switch) : Bool := o.switches.contains s

end Options

/-- What becomes of a command line. -/
inductive Choice where
  | run (options : Options)
  /-- Help or the version is shown. -/
  | inform
  | refuse
  deriving Repr, DecidableEq

/-- What a single argument is. -/
inductive Argument where
  | setting (s : Setting) (attached : Option String)
  | switch (s : Switch)
  | inform
  /-- No options follow. -/
  | separator
  | unknown
  deriving Repr, DecidableEq

/-- The name before an equals sign and the value after it, if there is one. -/
def splitEquals (cs : List Char) : List Char × Option (List Char) :=
  match cs.dropWhile (· ≠ '=') with
  | [] => (cs, none)
  | _ :: value => (cs.takeWhile (· ≠ '='), some value)

/-- The option with a long name, which may have a value attached. -/
def longOption (cs : List Char) : Argument :=
  let (nameChars, value) := splitEquals cs
  let name := String.ofList nameChars
  match settings.find? (·.2.1 == name), switches.find? (·.2 == name), value with
  | some (s, _), _, value => .setting s (value.map String.ofList)
  | none, some (s, _), none => .switch s
  | none, none, none => if name = "help" || name = "version" then .inform else .unknown
  | _, _, some _ => .unknown

/-- The option with a short name, which may be followed by its value. -/
def shortOption (c : Char) (rest : List Char) : Argument :=
  match settings.find? (·.2.2 == c) with
  | some (s, _) =>
    match rest with
    | [] => .setting s none
    | '=' :: value => .setting s (some (String.ofList value))
    | value => .setting s (some (String.ofList value))
  | none => if c = 'h' || c = 'V' then .inform else .unknown

/-- What an argument is. -/
def classify (argument : String) : Argument :=
  match argument.toList with
  | ['-', '-'] => .separator
  | '-' :: '-' :: name => longOption name
  | '-' :: c :: rest => shortOption c rest
  | _ => .unknown

/-- Whether an argument can be the value of the option before it. -/
def isValue (argument : String) : Bool :=
  !argument.isEmpty && (argument.toList.head? ≠ some '-' || argument = "-")

/-- The choice once all arguments have been read: two options exclude each other. -/
def finish (o : Options) : Choice :=
  if o.has .sqlOnly && o.has .schemaOnly then .refuse else .run o

/-- The choice for arguments after those that gave `o`. -/
def parseFrom (o : Options) : List String → Choice
  | [] => finish o
  | argument :: rest =>
    match classify argument with
    | .inform => .inform
    | .unknown => .refuse
    | .separator => if rest.isEmpty then finish o else .refuse
    | .switch s =>
      if o.has s then .refuse else parseFrom { o with switches := o.switches ++ [s] } rest
    | .setting s attached =>
      if (o.value? s).isSome then .refuse
      else
        match attached, rest with
        | some v, rest =>
          if v.isEmpty then .refuse else parseFrom { o with values := o.values ++ [(s, v)] } rest
        | none, v :: rest =>
          if isValue v then parseFrom { o with values := o.values ++ [(s, v)] } rest else .refuse
        | none, [] => .refuse

/-- The choice for a command line. -/
def parse (arguments : List String) : Choice := parseFrom {} arguments

end DataModel.CommandLine
