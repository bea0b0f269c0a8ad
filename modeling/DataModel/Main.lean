import DataModel.Program

/-!
# The command

The program on the disk and in the environment of a process. Nothing is decided here: the operations
of the file system are handed to `Program.run`, and its outcome becomes text and an exit code.
-/

namespace DataModel

open Files

/-! ### The process -/

/-- The variable in an entry of an environment, unless the entry is not a text. -/
def variableOf (entry : List UInt8) : Option (String × String) := do
  let name ← String.fromUTF8? ⟨(entry.takeWhile (· ≠ 61)).toArray⟩
  let value ← String.fromUTF8? ⟨((entry.dropWhile (· ≠ 61)).drop 1).toArray⟩
  return (name, value)

/-- The environment of the process. -/
def processEnvironment : IO Environment := do
  let entries := (← IO.FS.readBinFile "/proc/self/environ").toList.splitOn 0
  return (entries.filter (!·.isEmpty)).filterMap variableOf

/-- A number with leading zeros, in as many digits as are wanted. -/
def padded (width n : Nat) : String :=
  let digits := toString n
  String.ofList (List.replicate (width - digits.length) '0') ++ digits

/-- The date some days after the first of January 1970. Years are counted from the first of March,
so that a leap day is the last day of its year. -/
def dateAfter (days : Nat) : String :=
  let days := days + 719468
  let era := days / 146097
  let day := days % 146097
  let year := (day - day / 1460 + day / 36524 - day / 146096) / 365
  let day := day - (365 * year + year / 4 - year / 100)
  let month := (5 * day + 2) / 153
  let day := day - (153 * month + 2) / 5 + 1
  let year := year + 400 * era + month / 10
  let month := (month + 2) % 12 + 1
  padded 4 year ++ "-" ++ padded 2 month ++ "-" ++ padded 2 day

example : dateAfter 19782 = "2024-02-29" := by decide +kernel

/-- The date on which the process has been started. -/
def processDate : IO String := do
  let started := (← ((← IO.currentDir) / "/proc/self").metadata).modified
  return dateAfter (started.sec.toNat / 86400)

/-! ### The disk -/

/-- The fault that an error of the disk stands for. -/
def faultOf : IO.Error → Fault
  | .noFileOrDirectory .. => .notFound
  | .alreadyExists .. => .alreadyExists
  | .permissionDenied .. => ⟨"Permission denied", some 13⟩
  | .inappropriateType _ code _ => if code = 21 then .isADirectory else .notADirectory
  | .invalidArgument _ code _ => if code = 36 then .nameTooLong else ⟨"Invalid argument", some 22⟩
  | .resourceExhausted .. => ⟨"No space left on device", some 28⟩
  | e => ⟨toString e, none⟩

/-- The outcome of an operation on the disk. A path with a null character is not handed to it. -/
def attemptOnDisk {α : Type} (path : String) (operation : IO α) : IO (Except Fault α) := do
  if path.toList.contains '\x00' then return .error .nullInPath
  try
    return .ok (← operation)
  catch e =>
    return .error (faultOf e)

/-- The text of a file, if it is a text. -/
def readOnDisk (path : String) : IO (Except Fault String) := do
  match ← attemptOnDisk path (IO.FS.readBinFile path) with
  | .error fault => return .error fault
  | .ok bytes =>
    match String.fromUTF8? bytes with
    | some text => return .ok text
    | none => return .error .notText

/-- The lines before the first that is not a text, of which `line` has been read. -/
def textLines (line : List UInt8) : List UInt8 → String
  | [] => (String.fromUTF8? ⟨line.toArray⟩).getD ""
  | byte :: rest =>
    if byte = 10 then
      match String.fromUTF8? ⟨(line ++ [byte]).toArray⟩ with
      | some text => text ++ textLines [] rest
      | none => ""
    else textLines (line ++ [byte]) rest

/-- Opens a file on the disk for more text at its end. -/
def openOnDisk (path : String) : IO (Except Fault IO.FS.Handle) :=
  attemptOnDisk path (IO.FS.Handle.mk path .append)

/-- Adds a text at the end of an open file, as far as that is possible. -/
def appendOnDisk (log : IO.FS.Handle) (text : String) : IO Unit := do
  try
    log.putStr text
    log.flush
  catch _ => pure ()

/-- The disk as a file system. -/
def disk : System IO IO.FS.Handle where
  workingDirectory := return (← IO.currentDir).toString
  isRegular path := attemptOnDisk path do
    return (← ((← IO.currentDir) / path).metadata).type == .file
  read := readOnDisk
  readLines path := do
    return (← attemptOnDisk path (IO.FS.readBinFile path)).map fun bytes => textLines [] bytes.toList
  createDirectories path := attemptOnDisk path (IO.FS.createDirAll path)
  write path text := attemptOnDisk path (IO.FS.writeFile path text)
  openToAppend := openOnDisk
  append := appendOnDisk

/-- How the command is called. -/
def usage : String :=
  "Usage: schemagen [OPTIONS]\n\n" ++
  "Options:\n" ++
  "  -c, --config <CONFIG>    Configuration file (schemagen.yaml if there is one)\n" ++
  "  -s, --schema <SCHEMA>    Schema document to compile\n" ++
  "  -o, --out-dir <OUT_DIR>  Directory the artifacts are written to\n" ++
  "      --sql-only           Generate the statements only\n" ++
  "      --graphql-only       Generate the API schema only\n" ++
  "      --check              Compile without writing\n" ++
  "  -h, --help               Print this text\n" ++
  "  -V, --version            Print the version\n"

end DataModel

open DataModel

/-- Runs the program on the disk. The lines of the log are left to a logging library: it is opened,
and nothing is said in it. -/
def main (arguments : List String) : IO UInt32 := do
  let env ← processEnvironment
  let outcome ← Program.run disk .standard (.silent (← processDate)) env arguments
  match outcome with
  | .informed => IO.print usage
  | .failure report => IO.eprint report
  | .usage => IO.eprint usage
  | _ => pure ()
  return outcome.exitCode
