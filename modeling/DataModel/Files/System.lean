/-!
# File systems

What the program asks of a file system, as a record of operations in some monad. The program is
written once against this record: run in `IO` it works on the disk, and run on a `Tree` it is a
function whose effect on files can be stated and proved.
-/

namespace DataModel.Files

/-- Why a file system refuses an operation: a description, and the number under which the system has
it, unless the operation was not even asked of the system. -/
structure Fault where
  description : String
  code : Option Nat
  deriving Repr, DecidableEq

namespace Fault

/-- The wording of a fault. -/
def message (f : Fault) : String :=
  match f.code with
  | some code => f.description ++ " (os error " ++ toString code ++ ")"
  | none => f.description

/-- Nothing stands at the path. -/
def notFound : Fault := ⟨"No such file or directory", some 2⟩

/-- Something stands where a directory was to be created. -/
def alreadyExists : Fault := ⟨"File exists", some 17⟩

/-- A file stands where a path goes on. -/
def notADirectory : Fault := ⟨"Not a directory", some 20⟩

/-- A directory stands where a file is wanted. -/
def isADirectory : Fault := ⟨"Is a directory", some 21⟩

/-- The path or one of its components is longer than the system allows. -/
def nameTooLong : Fault := ⟨"File name too long", some 36⟩

/-- The path has a null character in it. -/
def nullInPath : Fault := ⟨"file name contained an unexpected NUL byte", none⟩

/-- The file is not a text. -/
def notText : Fault := ⟨"stream did not contain valid UTF-8", none⟩

end Fault

/-- A file system with operations in `m`. -/
structure System (m : Type → Type) (Handle : Type) where
  /-- The path of the working directory. -/
  workingDirectory : m String
  /-- Whether a regular file stands at a path, rather than something else. -/
  isRegular : String → m (Except Fault Bool)
  /-- The text of a file. -/
  read : String → m (Except Fault String)
  /-- The text of a file up to the first line that is not text. -/
  readLines : String → m (Except Fault String)
  /-- Creates a directory with all directories above it; one that exists is left alone. -/
  createDirectories : String → m (Except Fault Unit)
  /-- Writes a file in full, in the place of one that exists. -/
  write : String → String → m (Except Fault Unit)
  /-- Opens a file for more text at its end; one that does not exist is created empty. -/
  openToAppend : String → m (Except Fault Handle)
  /-- Adds a text at the end of an open file. -/
  append : Handle → String → m Unit

end DataModel.Files
