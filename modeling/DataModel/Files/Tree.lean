import DataModel.Files.Path
import DataModel.Files.System

/-!
# File trees

A file system as a value: what stands at each place, and the working directory from which relative
paths start. A place is the list of names from the root, and the root itself is always a directory.
There are no links, so no file has two places; every operation is permitted, and there is room for
every file.

Paths are followed and directories created as the system and the standard library do it, which shows
where an operation fails: before a path is followed it is checked as a whole, names have a limited
length, and directories that were created stay when a later step fails.

`Tree.system` is the file system whose operations read and change such a value.
-/

namespace DataModel.Files

/-- The names from the root to an entry. -/
abbrev Place := List String

/-- What may stand at a place. -/
inductive Entry where
  | directory
  | file (text : String)
  /-- A file that is not a text: the text at its beginning and the bytes after that. -/
  | binary (text : String) (bytes : List UInt8)
  deriving Repr, DecidableEq

/-- A file tree. -/
structure Tree where
  workingDirectory : Place
  entries : List (Place × Entry)
  deriving Repr, DecidableEq

/-! ### Limits -/

/-- The length of a name, in bytes, that is not exceeded. -/
def nameLimit : Nat := 255

/-- The length of a path, in bytes, that is not exceeded. -/
def pathLimit : Nat := 4095

/-- Refuses a path that cannot be handed to the system. -/
def checkPath (path : String) : Except Fault Unit :=
  if path.toList.contains '\x00' then .error .nullInPath
  else if pathLimit < path.utf8ByteSize then .error .nameTooLong
  else .ok ()

/-- The place that a component denotes in a directory. -/
def placeIn (directory : Place) (name : String) : Except Fault Place :=
  if name = "." then .ok directory
  else if name = ".." then .ok directory.dropLast
  else if nameLimit < name.utf8ByteSize then .error .nameTooLong
  else .ok (directory ++ [name])

namespace Tree

/-- What stands at a place. -/
def at? (t : Tree) (p : Place) : Option Entry :=
  if p.isEmpty then some .directory else t.entries.lookup p

/-- The tree with an entry at a place. -/
def put (t : Tree) (p : Place) (e : Entry) : Tree :=
  { t with entries :=
      if t.entries.any (·.1 == p) then
        t.entries.map fun entry => if entry.1 == p then (p, e) else entry
      else t.entries ++ [(p, e)] }

/-! ### Paths -/

/-- The place from which a path starts. -/
def origin (t : Tree) (path : String) : Place :=
  if isAbsolute path then [] else t.workingDirectory

/-- The directory that a component leads to from a directory. -/
def enter (t : Tree) (p : Place) (name : String) : Except Fault Place := do
  let q ← placeIn p name
  match t.at? q with
  | some .directory => .ok q
  | some _ => .error .notADirectory
  | none => .error .notFound

/-- The directory that is reached by following components from a directory. -/
def follow (t : Tree) (p : Place) (names : List String) : Except Fault Place :=
  names.foldlM t.enter p

/-- The place that a path denotes. All but its last component have to be directories. -/
def locate (t : Tree) (path : String) : Except Fault Place := do
  checkPath path
  match (components path).getLast? with
  | none => if isAbsolute path then .ok [] else .error .notFound
  | some last => placeIn (← t.follow (t.origin path) (components path).dropLast) last

/-! ### Reading -/

/-- The file at a path. -/
def file (t : Tree) (path : String) : Except Fault Entry := do
  match t.at? (← t.locate path) with
  | some .directory => .error .isADirectory
  | some e => if endsWithSlash path then .error .notADirectory else .ok e
  | none => .error .notFound

/-- Whether a regular file stands at a path, rather than a directory. -/
def isRegular (t : Tree) (path : String) : Except Fault Bool :=
  match t.file path with
  | .ok _ => .ok true
  | .error fault => if fault = .isADirectory then .ok false else .error fault

/-- The text of a file. -/
def read (t : Tree) (path : String) : Except Fault String := do
  match ← t.file path with
  | .file text => .ok text
  | _ => .error .notText

/-- The lines of a text that end in a line feed. -/
def wholeLines (text : String) : String :=
  String.ofList (text.toList.reverse.dropWhile (· ≠ '\n')).reverse

/-- The text of a file up to the first line that is not text. -/
def readLines (t : Tree) (path : String) : Except Fault String := do
  match ← t.file path with
  | .file text => .ok text
  | .binary text _ => .ok (wholeLines text)
  | .directory => .error .isADirectory

/-! ### Writing -/

/-- The place at which a file can be written under a path. -/
def slot (t : Tree) (path : String) : Except Fault Place := do
  let p ← t.locate path
  match t.at? p with
  | some .directory => .error .isADirectory
  | some _ => if endsWithSlash path then .error .notADirectory else .ok p
  | none => if endsWithSlash path then .error .isADirectory else .ok p

/-- The tree after a file has been written. -/
def write (t : Tree) (path text : String) : Except Fault Tree :=
  return t.put (← t.slot path) (.file text)

/-- The place of a file that is opened for more text at its end, and the tree after that. -/
def openToAppend (t : Tree) (path : String) : Except Fault (Place × Tree) := do
  let p ← t.slot path
  return (p, if (t.at? p).isSome then t else t.put p (.file ""))

/-- The tree with a text added at the end of the file at a place. -/
def append (t : Tree) (p : Place) (text : String) : Tree :=
  match t.at? p with
  | some (.file before) => t.put p (.file (before ++ text))
  | some (.binary before bytes) => t.put p (.binary before (bytes ++ text.toUTF8.toList))
  | _ => t

/-! ### Creating directories -/

/-- The tree after a directory has been created at components that are followed from a place. -/
def makeDirectory (t : Tree) (p : Place) (names : List String) : Except Fault Tree := do
  match names.getLast? with
  | none => .error .alreadyExists
  | some last =>
    let q ← placeIn (← t.follow p names.dropLast) last
    if (t.at? q).isSome then .error .alreadyExists else .ok (t.put q .directory)

/-- Creates a directory unless there is one already. -/
def ensureDirectory (t : Tree) (p : Place) (names : List String) : Except Fault Unit × Tree :=
  match t.makeDirectory p names, t.follow p names with
  | .ok created, _ => (.ok (), created)
  | .error _, .ok _ => (.ok (), t)
  | .error fault, .error _ => (.error fault, t)

/-- Creates the first of several directories. Where it lacks the directory around it, the others are
created before, which lie around it. -/
def ensureFirst (t : Tree) (p : Place) : List (List String) → Except Fault Unit × Tree
  | [] => (.ok (), t)
  | names :: around =>
    match t.ensureDirectory p names with
    | (.error fault, _) =>
      if fault = .notFound then
        match t.ensureFirst p around with
        | (.ok (), u) => u.ensureDirectory p names
        | failed => failed
      else (.error fault, t)
    | done => done

/-- Creates a directory and those above it. -/
def createDirectories (t : Tree) (path : String) : Except Fault Unit × Tree :=
  if path.isEmpty then (.ok (), t)
  else
    match checkPath path with
    | .error fault => (.error fault, t)
    | .ok () => t.ensureFirst (t.origin path)
        (components path :: beginnings (normalComponents path))

/-! ### The tree as a file system -/

/-- An operation that gives a result and changes the tree where it succeeds. -/
def attempt {α : Type} (change : Tree → Except Fault (α × Tree)) : StateM Tree (Except Fault α) :=
  fun t =>
    match change t with
    | .ok (a, changed) => (.ok a, changed)
    | .error fault => (.error fault, t)

/-- The tree as a file system. -/
def system : System (StateM Tree) Place where
  workingDirectory := return pathOf true (← get).workingDirectory
  isRegular path := return (← get).isRegular path
  read path := return (← get).read path
  readLines path := return (← get).readLines path
  createDirectories path := fun t => t.createDirectories path
  write path text := attempt fun t => (t.write path text).map ((), ·)
  openToAppend path := attempt (·.openToAppend path)
  append p text := modify (·.append p text)

/-- A working directory that holds these files and the directories they need. -/
def ofFiles (workingDirectory : Place) (files : List (String × String)) : Tree :=
  files.foldl
    (fun t (path, text) =>
      let t := (t.createDirectories (parentPath path)).2
      (t.write path text).toOption.getD t)
    (workingDirectory.foldl
      (fun (t : Tree) name => { t.put (t.workingDirectory ++ [name]) .directory with
        workingDirectory := t.workingDirectory ++ [name] })
      ⟨[], []⟩)

/-- The entries of a tree that another tree does not have alike. -/
def changesFrom (t before : Tree) : List (Place × Entry) :=
  t.entries.filter fun (p, e) => before.at? p ≠ some e

end Tree

end DataModel.Files
