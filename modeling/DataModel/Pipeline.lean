import DataModel.Artifacts
import DataModel.Config
import DataModel.Journal

/-!
# From file to file

`compileFile` reads a schema document and compiles it; `write` puts the artifacts where the
configuration wants them, creating the output directory first. The statements are written before
the API schema, and a failure ends the writing where it stands.
-/

namespace DataModel

open Files

/-- Why a run from file to file fails. -/
inductive PipelineError where
  | unreadable (path : String) (fault : Fault)
  | unwritable (path : String) (fault : Fault)
  | compile (error : CompileError)
  deriving DecidableEq

namespace PipelineError

/-- The wording of an error. -/
def message : PipelineError → String
  | .unreadable path fault => "Failed to read schema " ++ path ++ ": " ++ fault.message
  | .unwritable path fault => "Failed to write " ++ path ++ ": " ++ fault.message
  | .compile e => e.message

/-- The wording of the error below, where there is one. -/
def cause? : PipelineError → Option String
  | .unreadable _ fault => some fault.message
  | .unwritable _ fault => some fault.message
  | .compile e => e.cause?

end PipelineError

namespace Artifacts

variable {m : Type → Type} [Monad m] {Handle : Type} (files : System m Handle)
  (note : Event → m Unit)

/-- The artifacts of the schema document in a file. -/
def compileFile (path : String) (targets : Targets) : m (Except PipelineError Artifacts) := do
  match ← files.read path with
  | .error fault => return .error (.unreadable path fault)
  | .ok source =>
    note (.compiling source)
    return (compile source targets).mapError .compile

/-- The paths and texts of the artifacts, in the order in which they are written. -/
def outputs (a : Artifacts) (c : OutputConfig) : List (String × String) :=
  (a.sqlText?.map (c.sqlPath, ·)).toList ++ (a.schemaText?.map (c.schemaPath, ·)).toList

/-- Writes files in order, up to the first failure. -/
def writeAll : List (String × String) → m (Except PipelineError (List String))
  | [] => return .ok []
  | (path, text) :: rest => do
    match ← files.write path text with
    | .error fault => return .error (.unwritable path fault)
    | .ok () =>
      note (.wrote path)
      return (← writeAll rest).map (path :: ·)

/-- Writes the artifacts and tells the paths that were written. -/
def write (a : Artifacts) (c : OutputConfig) : m (Except PipelineError (List String)) := do
  if (a.outputs c).isEmpty then return .ok []
  else
    match ← files.createDirectories c.directory with
    | .error fault => return .error (.unwritable c.directory fault)
    | .ok () => writeAll files note (a.outputs c)

end Artifacts

end DataModel
