import DataModel.Api.Database
import DataModel.Api.Schema

/-!
# Resolution of fields

What a field of the API stands for: the value of a column, a row or a list of rows. `resolve`
follows the `Resolver` that the schema gives the field, asking the database where needed.

A `Fetch` keeps the calls that were made to the database, also those before a failure.
-/

namespace DataModel.Api

/-- A call to the database. -/
inductive Call where
  | findById (table : String) (id : Json)
  | findMany (table : String) (filter : Option Filter) (order : List OrderBy)
  | findFirst (table : String) (filter : Filter)

/-- A computation that may call the database and fail. -/
abbrev Fetch := ExceptT RequestError (StateM (List Call))

/-- What a field stands for. -/
inductive Resolved where
  | value (v : Value)
  | row (r : Row)
  | rows (rs : List Row)

/-- Records a call and takes up its answer. -/
def Fetch.call {α : Type} (c : Call) (answer : Except DatabaseError α) : Fetch α := do
  modify (· ++ [c])
  liftExcept (answer.mapError .database)
where
  /-- An outcome as a computation. -/
  liftExcept : Except RequestError α → Fetch α
    | .ok a => pure a
    | .error e => throw e

/-- Fails with a reason that has nothing to do with the database. -/
def Fetch.ofInput {α : Type} : Except InputError α → Fetch α
  | .ok a => pure a
  | .error e => throw (.input e)

namespace Database

/-- The row with a key. -/
def rowById (db : Database) (table : String) (id : Json) : Fetch (Option Row) :=
  Fetch.call (.findById table id) (db.findById table id)

/-- The rows under a filter in an order. -/
def rows (db : Database) (table : String) (filter : Option Filter) (order : List OrderBy) :
    Fetch (List Row) :=
  Fetch.call (.findMany table filter order) (db.findMany table filter order)

/-- The first row under a filter. -/
def firstRow (db : Database) (table : String) (filter : Filter) : Fetch (Option Row) :=
  Fetch.call (.findFirst table filter) (db.findFirst table filter)

end Database

/-- The cell of a column, unless it is absent or null. -/
def Row.cell? (r : Row) (column : String) : Option Json :=
  match r.lookup column with
  | some .null => none
  | cell => cell

/-- The cell of a column that has to be there, null included. -/
def Row.key (r : Row) (column : String) : Fetch Json :=
  match r.lookup column with
  | some v => pure v
  | none => throw (.missingColumn column)

/-- The value of a cell: enum values are stored as text, and an identifier is always text. -/
def cellValue (kind : FieldKind) (cell : Json) : Value :=
  match kind, cell with
  | .enum, .string s => .enum s
  | .scalar .id, .int n => .string (Json.int n).render
  | .scalar .id, .float x => .string (Json.float x).render
  | _, cell => .ofJson cell

/-- The rows on the other side of a relation, seen from a row. -/
def Binding.resolve (db : Database) (r : Row) : Binding → Fetch (Option Resolved)
  | .reference targetTable column =>
    match r.cell? column with
    | none => pure none
    | some id => return (← db.rowById targetTable id).map .row
  | .reverse targetTable column primaryKey many => do
    let key ← r.key primaryKey
    if many then return some (.rows (← db.rows targetTable (some (.eq column key)) []))
    else return (← db.firstRow targetTable (.eq column key)).map .row
  | .junction linkTable ownColumn otherColumn primaryKey targetTable targetPrimaryKey => do
    let key ← r.key primaryKey
    let links ← db.rows linkTable (some (.eq ownColumn key)) []
    match links.filterMap (·.lookup otherColumn) with
    | [] => return some (.rows [])
    | keys => return some (.rows (← db.rows targetTable (some (.isIn targetPrimaryKey keys)) []))

/-- The row that the unique input of a lookup determines. -/
def resolveLookup (db : Database) (t : ObjectType) (arguments : List (String × Value)) :
    Fetch (Option Resolved) := do
  match arguments.lookup "where" with
  | none => throw (.input .missingWhere)
  | some v =>
    let filter ← Fetch.ofInput (uniqueFilter t v)
    return (← db.firstRow (tableName t.name) filter).map .row

/-- The rows that the inputs of a listing describe. -/
def resolveListing (db : Database) (t : ObjectType) (arguments : List (String × Value)) :
    Fetch (Option Resolved) := do
  let filter : Option Filter ←
    match arguments.lookup "where" with
    | none => pure none
    | some .null => pure none
    | some v => some <$> Fetch.ofInput (whereFilter t v)
  let order : List OrderBy ←
    match arguments.lookup "orderBy" with
    | none => pure []
    | some v => Fetch.ofInput (orderBy v)
  return some (.rows (← db.rows (tableName t.name) filter order))

/-- What a field stands for on a parent, which has to be a row except at the root. -/
def Resolver.resolve (db : Database) (parent : Option Row) (arguments : List (String × Value)) :
    Resolver → Fetch (Option Resolved)
  | .column name kind =>
    match parent with
    | none => throw .noParentRow
    | some r => pure ((r.cell? name).map fun cell => .value (cellValue kind cell))
  | .relation binding =>
    match parent with
    | none => throw .noParentRow
    | some r => binding.resolve db r
  | .lookup t => resolveLookup db t arguments
  | .listing t => resolveListing db t arguments

end DataModel.Api
