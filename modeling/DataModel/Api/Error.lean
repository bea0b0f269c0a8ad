import DataModel.Api.Value
import DataModel.Text.Quoted

/-!
# What can go wrong in the generated API

Two kinds of failure. A `SchemaError` arises when the API of a data model is generated: something in
the model has no counterpart in it, or the types that came out do not form a schema. A
`RequestError` arises when a request is resolved: an input cannot be translated, a row lacks a
column, or the database refuses.
-/

namespace DataModel.Api

/-- Why a collection of types is no schema. -/
inductive TypeFault where
  /-- A type has the name of a built-in scalar. -/
  | alreadyExists (type : String)
  | notFound (type : String)
  | rootNotObject
  | noFields (type : String)
  | reservedName (type field : String)
  | notOutput (type field : String)
  | argumentNotInput (type field argument : String)
  | fieldNotInput (type field : String)
  deriving Repr, DecidableEq

/-- The wording of a fault. -/
def TypeFault.message : TypeFault → String
  | .alreadyExists t => "Type \"" ++ t ++ "\" already exists"
  | .notFound t => "Type \"" ++ t ++ "\" not found"
  | .rootNotObject => "The query root must be an object"
  | .noFields t => "Object \"" ++ t ++ "\" must define one or more fields"
  | .reservedName t f =>
    "Field \"" ++ t ++ "." ++ f ++
      "\" must not have a name which begins with the characters \"__\" (two underscores)"
  | .notOutput t f => "Field \"" ++ t ++ "." ++ f ++ "\" must return a output type"
  | .argumentNotInput t f a =>
    "Argument \"" ++ t ++ "." ++ f ++ "." ++ a ++ "\" must accept a input type"
  | .fieldNotInput t f => "Field \"" ++ t ++ "." ++ f ++ "\" must accept a input type"

/-- Why a data model has no API. -/
inductive SchemaError where
  | noObjectTypes
  | unresolvedRelation (objectType field : String)
  | missingPrimaryKey (objectType : String)
  | labelCollision (label objectType : String)
  | unknownConstraintField (objectType field : String)
  /-- A type would have two fields of one name. This has no wording: it aborts the generation. -/
  | repeatedField (type field : String)
  | invalidTypes (fault : TypeFault)
  deriving Repr, DecidableEq

/-- The wording of an error. -/
def SchemaError.message (e : SchemaError) : String :=
  "Error generating schema: " ++
    match e with
    | .noObjectTypes => "the document declares no object types"
    | .unresolvedRelation t f => t ++ "." ++ f ++ " has no resolved relation"
    | .missingPrimaryKey t => t ++ " has no ID field"
    | .labelCollision l t =>
      "unique constraint " ++ l ++ " on " ++ t ++ " collides with a field of the same name"
    | .unknownConstraintField t f =>
      "unique constraint on " ++ t ++ " references unknown field " ++ f
    | .repeatedField t f => "field " ++ f ++ " is repeated on " ++ t
    | .invalidTypes fault =>
      "there was an error generating schema: SchemaError(" ++ Text.quoted fault.message ++ ")"

/-- Why the database did not answer. -/
inductive DatabaseError where
  | noTable (table : String)
  /-- The schema is not bound to a database. -/
  | unavailable
  deriving Repr, DecidableEq

/-- The wording of an error. -/
def DatabaseError.message : DatabaseError → String
  | .noTable table => "Query failed: no table " ++ table
  | .unavailable => "No query executor is bound to this schema"

/-- Why an input is not understood. -/
inductive InputError where
  | notAnObject
  | unknownFilterField (key : String)
  /-- A combinator takes a list of objects. -/
  | notObjects (shown : String)
  | keyNotObject (key : String)
  | missingPart (key part : String)
  | unknownUniqueField (key : String)
  | emptyLookup (objectType : String)
  | invalidOrder (shown : String)
  | missingWhere
  deriving Repr, DecidableEq

/-- The wording of an error. -/
def InputError.message : InputError → String
  | .notAnObject => "where input must be an object"
  | .unknownFilterField key => "unknown filter field " ++ key
  | .notObjects shown => "expected a list of objects, found " ++ shown
  | .keyNotObject key => key ++ " must be an object"
  | .missingPart key part => key ++ "." ++ part ++ " is required"
  | .unknownUniqueField key => "unknown unique field " ++ key
  | .emptyLookup t => "a unique lookup on " ++ t ++ " needs at least one field"
  | .invalidOrder shown => "invalid order value " ++ shown
  | .missingWhere => "missing where argument"

/-- Why a request fails. -/
inductive RequestError where
  | input (error : InputError)
  /-- A field of an object is resolved on something that is no row. -/
  | noParentRow
  | missingColumn (column : String)
  | database (error : DatabaseError)
  deriving Repr, DecidableEq

/-- The wording of an error. -/
def RequestError.message : RequestError → String
  | .input e => "Error resolving request: " ++ e.message
  | .noParentRow => "Internal Error: failed to downcast parent row"
  | .missingColumn column => "Internal Error: parent row has no " ++ column ++ " column"
  | .database e => "Executor error: " ++ e.message

end DataModel.Api
