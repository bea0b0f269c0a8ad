import DataModel.Files.Path
import DataModel.Files.System

/-!
# The journal of a run

A run tells of its progress in lines of a log. What the lines say, with their times and layout, and
which of them are left out, is for a logging library to decide; to the program they are texts that
come with its events. The log is a file if one is wanted, with the date of the run in its name, and
its lines are added after whatever the file holds. A run is taken to lie within one day, as the log
would go on in another file on the next.
-/

namespace DataModel

open Files

/-- What is told of. -/
inductive Event where
  /-- Logging has been set up. -/
  | started
  /-- A schema document has been read and is compiled: all that is told until this ends. -/
  | compiling (source : String)
  /-- An artifact has been written. -/
  | wrote (path : String)
  /-- The run has come to its end. -/
  | finished
  deriving Repr, DecidableEq

/-- What a logging library brings to a run: the date, and the lines of each event. -/
structure Journal where
  date : String
  lines : Event → String

namespace Journal

/-- A journal that says nothing. -/
def silent (date : String) : Journal := ⟨date, fun _ => ""⟩

/-- The name of the log file. -/
def fileName (j : Journal) : String := "schemagen.log." ++ j.date

variable {m : Type → Type} [Monad m] {Handle : Type}

/-- Tells of an event, in the log file if there is one. -/
def note (j : Journal) (files : System m Handle) (log : Option Handle) (e : Event) : m Unit :=
  match log with
  | some log => files.append log (j.lines e)
  | none => pure ()

/-- Opens the log file in a directory, which is created if need be. A directory that cannot be
created shows when the file is opened; before that is given up, the directory of the file is
tried. -/
def openFile (j : Journal) (files : System m Handle) (directory : String) :
    m (Except Fault Handle) := do
  let _ ← files.createDirectories directory
  let path := joinPath directory j.fileName
  match ← files.openToAppend path with
  | .ok log => return .ok log
  | .error _ =>
    match ← files.createDirectories (parentPath path) with
    | .ok () => files.openToAppend path
    | .error fault => return .error fault

end Journal

end DataModel
