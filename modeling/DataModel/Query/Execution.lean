import DataModel.Api.Resolution
import DataModel.Query.Parser
import DataModel.Query.Plan

/-!
# Execution of requests

`execute` answers a request for which there is a plan. Fields are resolved in order, each with
everything below it before the next. A field that fails is recorded and left out of its object;
nothing else is touched, and an object of which nothing is left is null.

A key that occurs again is resolved again, and the two results are merged: objects entry by entry,
lists item by item, anything else keeps its first result.
-/

namespace DataModel.Query

open DataModel.Api

/-- A part of the way from the root of an answer to one of its values. -/
inductive PathPart where
  | key (name : String)
  | index (n : Nat)
  deriving Repr, DecidableEq

/-- Why a field has no result. -/
inductive Fault where
  /-- Resolving the field failed. -/
  | request (error : RequestError)
  /-- A type that demands a value was given none. -/
  | missingValue
  | invalidItem (enum : String)
  | invalidEnum (enum : String)
  | invalidScalar (scalar : String)
  | notAList
  deriving Repr, DecidableEq

/-- The wording of a fault. -/
def Fault.message : Fault → String
  | .request e => e.message
  | .missingValue => "internal: non-null types require a return value"
  | .invalidItem e => "internal: invalid item for enum \"" ++ e ++ "\""
  | .invalidEnum e =>
    "internal: invalid value for enum \"" ++ e ++ "\", expected \"FieldValue::Value\""
  | .invalidScalar s =>
    "internal: invalid value for scalar \"" ++ s ++ "\", expected \"FieldValue::Value\""
  | .notAList => "internal: expects an array"

/-- A fault and the place where it arose. Faults of resolving have no place. -/
structure FieldError where
  fault : Fault
  path : List PathPart
  deriving Repr, DecidableEq

/-- What an execution has recorded. -/
structure Record where
  errors : List FieldError
  calls : List Call

/-- An execution records errors and calls. -/
abbrev Execution := StateM Record

mutual

/-- Two results of one key made one. -/
def merge : Json → Json → Json
  | .object found, .object entries => .object (mergeEntries found entries)
  | .array found, .array items => .array (mergeItems found items)
  | found, _ => found
termination_by structural _ v => v

/-- Entries added to those found before. -/
def mergeEntries : List (String × Json) → List (String × Json) → List (String × Json)
  | found, [] => found
  | found, (key, v) :: rest =>
    let added :=
      if found.any (·.1 == key) then
        found.map fun (k, w) => if k == key then (k, merge w v) else (k, w)
      else found ++ [(key, v)]
    mergeEntries added rest
termination_by structural _ entries => entries

/-- Objects in a list merged with those at the same places of a list found before. -/
def mergeItems : List Json → List Json → List Json
  | [], _ => []
  | found, [] => found
  | found :: others, v :: rest =>
    (match found, v with
      | .object _, .object _ => merge found v
      | _, _ => found) :: mergeItems others rest
termination_by structural _ items => items

end

/-- Records an error; there is no result. -/
def fail {α : Type} (path : List PathPart) (fault : Fault) : Execution (Option α) := do
  let place :=
    match fault with
    | .request _ => []
    | _ => path
  modify fun r => { r with errors := r.errors ++ [⟨fault, place⟩] }
  return none

/-- Runs a computation on the database inside an execution. -/
def fetch (computation : Fetch (Option Resolved)) :
    Execution (Except RequestError (Option Resolved)) := fun r =>
  let (result, calls) := computation.run r.calls
  (result, { r with calls })

/-- How the value of a type without members is answered. -/
def leafResult (s : Schema) (type : String) (path : List PathPart) (resolved : Resolved) :
    Execution (Option Json) :=
  match s.type? type, resolved with
  | some (.enum _ items), .value (.enum item) =>
    if items.contains item then return some (.string item) else fail path (.invalidItem type)
  | some (.enum _ items), .value (.string item) =>
    if items.contains item then return some (.string item) else fail path (.invalidItem type)
  | some (.enum ..), _ => fail path (.invalidEnum type)
  | some (.dateTime ..), .value (.string text) =>
    if DateTime.isLiteral text then return some (.string text) else fail path (.invalidScalar type)
  | some (.dateTime ..), _ => fail path (.invalidScalar type)
  | _, .value v => return some v.toJson
  | _, _ => fail path (.invalidScalar type)

/-- How what a field stands for is answered where the type is expected. `object` answers for a row,
or for something that is none. -/
def complete (s : Schema) (object : List PathPart → Option Row → Execution Json) :
    TypeExpr → List PathPart → Option Resolved → Execution (Option Json)
  | .nonNull _, path, none => fail path .missingValue
  | .nonNull t, path, some resolved => complete s object t path (some resolved)
  | _, _, none => return some .null
  | .named type, path, some resolved =>
    match s.type? type, resolved with
    | some (.object ..), .row r => some <$> object path (some r)
    | some (.object ..), _ => some <$> object path none
    | _, _ => leafResult s type path resolved
  | .list t, path, some (.rows rs) => do
    let items ← rs.zipIdx.mapM fun (r, n) =>
      complete s object t (path ++ [.index n]) (some (.row r))
    return some (.array (items.filterMap id))
  | .list _, path, some _ => fail path .notAList

/-- An object with these entries; none at all is null. -/
def objectOf (entries : List (String × Json)) : Json :=
  if entries.isEmpty then .null else .object (mergeEntries [] entries)

mutual

/-- The answer for the steps of an object. -/
def runSteps (s : Schema) (db : Database) :
    List Step → List PathPart → Option Row → Execution (List (String × Json))
  | [], _, _ => return []
  | step :: rest, path, parent => do
    let first ← runStep s db step path parent
    let others ← runSteps s db rest path parent
    return first.toList ++ others
termination_by structural steps => steps

/-- The entry for a step, if it does not fail. -/
def runStep (s : Schema) (db : Database) :
    Step → List PathPart → Option Row → Execution (Option (String × Json))
  | .typename key type, _, _ => return some (key, .string type)
  | .field key definition arguments children, path, parent => do
    let place := path ++ [.key key]
    match ← fetch (definition.resolver.resolve db parent arguments) with
    | .error e => fail place (.request e)
    | .ok resolved =>
      let result ← complete s
        (fun path row => do return objectOf (← runSteps s db children path row))
        definition.type place resolved
      return result.map (key, ·)
termination_by structural step => step

end

/-- The answer to a request. -/
structure Response where
  data : Json
  errors : List FieldError
  calls : List Call

/-- Answers a request according to its plan. -/
def Plan.run (schema : Schema) (db : Database) (plan : Plan) : Response :=
  let (entries, record) := (runSteps schema db plan [] none).run ⟨[], []⟩
  ⟨objectOf entries, record.errors, record.calls⟩

/-- Answers a request, unless the schema does not admit it. -/
def execute (schema : Schema) (db : Database) (text : String)
    (supplied : List (String × Value)) : Option Response := do
  let request ← parse text
  let plan ← Plan.of? schema request supplied
  return plan.run schema db

end DataModel.Query
