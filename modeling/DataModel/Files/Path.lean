/-!
# Paths

A path is a text whose components are separated by slashes. Joining never normalises: `.` and `..`
stay as they are written. Only where a path is taken apart to find the directories around it are the
components passed over that stand for the directory before them.
-/

namespace DataModel.Files

/-- Whether a path starts at the root. -/
def isAbsolute (path : String) : Bool := path.toList.head? = some '/'

/-- A path inside a directory. An absolute path stands for itself, and an empty directory adds
nothing. -/
def joinPath (directory path : String) : String :=
  if isAbsolute path || directory.isEmpty then path
  else if directory.toList.getLast? = some '/' then directory ++ path
  else directory ++ "/" ++ path

/-- The components of a path of which `component` has been read. -/
def componentsAfter (component : List Char) : List Char → List String
  | [] => [String.ofList component]
  | c :: rest =>
    if c = '/' then String.ofList component :: componentsAfter [] rest
    else componentsAfter (component ++ [c]) rest

/-- The components of a path, without empty ones. -/
def components (path : String) : List String :=
  (componentsAfter [] path.toList).filter (!·.isEmpty)

/-- Whether a path ends with a slash, so that only a directory can stand there. -/
def endsWithSlash (path : String) : Bool := path.toList.getLast? = some '/'

/-- The components of a path but for those that stand for the directory before them. A relative path
may start with one. -/
def normalComponents (path : String) : List String :=
  match isAbsolute path, components path with
  | false, "." :: rest => "." :: rest.filter (· ≠ ".")
  | _, names => names.filter (· ≠ ".")

/-- The path with these components. -/
def pathOf (absolute : Bool) (names : List String) : String :=
  (if absolute then "/" else "") ++ "/".intercalate names

/-- The path of the directory around a path. -/
def parentPath (path : String) : String :=
  pathOf (isAbsolute path) (normalComponents path).dropLast

/-- The beginnings of a list, without the whole of it, longest first. -/
def beginnings (names : List String) : List (List String) :=
  (List.range names.length).reverse.map names.take

/-- The path of a directory and those of the directories around it, innermost first. -/
def withParents (directory : String) : List String :=
  directory :: (beginnings (normalComponents directory)).map (pathOf (isAbsolute directory))

example : withParents "/work/run" = ["/work/run", "/work", "/"] := by decide +kernel

end DataModel.Files
