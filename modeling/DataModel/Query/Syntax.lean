import DataModel.Api.Value
import DataModel.TypeExpr

/-!
# Requests

The query language of the generated API as a tree: operations with their variables, selection sets
and named fragments. A literal is a value in which variables may stand for the parts that are
supplied with the request.

Aliases, directives and fragments are kept as written; `Query.Plan` is what is left of a request
once they have been worked out.
-/

namespace DataModel.Query

open DataModel.Api

/-- A value as written. -/
inductive Literal where
  | variable (name : String)
  | null
  | boolean (value : Bool)
  | int (value : Int)
  | float (value : Binary64)
  | string (value : String)
  | enum (value : String)
  | list (items : List Literal)
  | object (entries : List (String × Literal))

/-- An argument: its name and its value. -/
abbrev Argument := String × Literal

namespace Literal

mutual

/-- The variables that occur in a literal. -/
def variableNames : Literal → List String
  | .variable name => [name]
  | .list items => itemVariables items
  | .object entries => entryVariables entries
  | _ => []
termination_by structural v => v

/-- The variables that occur in items. -/
def itemVariables : List Literal → List String
  | [] => []
  | v :: rest => v.variableNames ++ itemVariables rest
termination_by structural items => items

/-- The variables that occur in entries. -/
def entryVariables : List (String × Literal) → List String
  | [] => []
  | (_, v) :: rest => v.variableNames ++ entryVariables rest
termination_by structural entries => entries

end

mutual

/-- The value of a literal, unless one of its variables has none. -/
def value? (supplied : String → Option Value) : Literal → Option Value
  | .variable name => supplied name
  | .null => some .null
  | .boolean b => some (.boolean b)
  | .int n => some (.int n)
  | .float x => some (.float x)
  | .string s => some (.string s)
  | .enum s => some (.enum s)
  | .list items => (itemValues? supplied items).map .list
  | .object entries => (entryValues? supplied entries).map .object
termination_by structural v => v

/-- The values of items. -/
def itemValues? (supplied : String → Option Value) : List Literal → Option (List Value)
  | [] => some []
  | v :: rest => do
    let first ← v.value? supplied
    let others ← itemValues? supplied rest
    return first :: others
termination_by structural items => items

/-- The values of entries. -/
def entryValues? (supplied : String → Option Value) :
    List (String × Literal) → Option (List (String × Value))
  | [] => some []
  | (key, v) :: rest => do
    let first ← v.value? supplied
    let others ← entryValues? supplied rest
    return (key, first) :: others
termination_by structural entries => entries

end

mutual

/-- Whether two literals are written alike; the order of entries does not matter. -/
def same : Literal → Literal → Bool
  | .variable x, .variable y => x == y
  | .null, .null => true
  | .boolean x, .boolean y => x == y
  | .int x, .int y => x == y
  | .float x, .float y => x.rank == y.rank
  | .string x, .string y => x == y
  | .enum x, .enum y => x == y
  | .list xs, .list ys => sameItems xs ys
  | .object xs, .object ys => xs.length == ys.length && sameEntries xs ys
  | _, _ => false
termination_by structural x => x

/-- Whether two lists of items are written alike. -/
def sameItems : List Literal → List Literal → Bool
  | [], [] => true
  | x :: xs, y :: ys => x.same y && sameItems xs ys
  | _, _ => false
termination_by structural xs => xs

/-- Whether each of the entries has an equal among others. -/
def sameEntries : List (String × Literal) → List (String × Literal) → Bool
  | [], _ => true
  | (key, x) :: xs, ys =>
    (match ys.lookup key with
      | some y => x.same y
      | none => false) && sameEntries xs ys
termination_by structural xs => xs

end

end Literal

/-- A directive and its arguments. -/
structure Directive where
  name : String
  arguments : List Argument

/-- A part of a selection set. -/
inductive Selection where
  | field (responseKey : Option String) (name : String) (arguments : List Argument)
      (directives : List Directive) (children : List Selection)
  /-- The selections of a named fragment. -/
  | spread (fragment : String) (directives : List Directive)
  /-- Selections on the spot, possibly for one type only. -/
  | inline (condition : Option String) (directives : List Directive) (children : List Selection)

namespace Selection

/-- The directives of a selection. -/
def directives : Selection → List Directive
  | .field _ _ _ ds _ => ds
  | .spread _ ds => ds
  | .inline _ ds _ => ds

end Selection

/-- A variable of an operation. -/
structure VariableDefinition where
  name : String
  type : TypeExpr
  default : Option Value

/-- What an operation does. -/
inductive OperationKind where
  | query
  | mutation
  | subscription
  deriving Repr, DecidableEq

/-- An operation. -/
structure Operation where
  kind : OperationKind
  declared : List VariableDefinition
  directives : List Directive
  selections : List Selection

/-- A named fragment. -/
structure Fragment where
  name : String
  condition : String
  directives : List Directive
  selections : List Selection

/-- A request document. -/
structure Request where
  operations : List Operation
  fragments : List Fragment

/-- The fragment with this name. -/
def Request.fragment? (r : Request) (name : String) : Option Fragment :=
  r.fragments.find? (·.name == name)

end DataModel.Query
