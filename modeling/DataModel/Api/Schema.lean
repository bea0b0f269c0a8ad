import DataModel.Api.Binding
import DataModel.Api.Filter
import DataModel.TypeExpr

/-!
# Schemas

The types of a generated API, as data. A schema is a list of types under distinct names: adding a
type under a name that is taken replaces the earlier one in its place. Its root is the object type
`Query`.

A field of an object carries what resolving it means, so that the schema is all that executing a
request needs. `Schema.faults` lists what keeps a collection of types from being a schema, in the
order in which it is reported, and `Schema.render` is the text of a schema.
-/

namespace DataModel.Api

/-- A field of an input type or an argument. -/
structure InputField where
  name : String
  type : TypeExpr
  deriving Repr, DecidableEq

/-- What resolving a field means. -/
inductive Resolver where
  /-- The value of a column of the row. -/
  | column (name : String) (kind : FieldKind)
  /-- The rows that a relation field stands for. -/
  | relation (binding : Binding)
  /-- The row of an object type that a unique input determines. -/
  | lookup (objectType : ObjectType)
  /-- The rows of an object type under a filter and an order. -/
  | listing (objectType : ObjectType)
  deriving DecidableEq

/-- A field of an object type. -/
structure OutputField where
  name : String
  type : TypeExpr
  arguments : List InputField
  resolver : Resolver
  deriving DecidableEq

/-- A type of the API. -/
inductive ApiType where
  | object (name : String) (fields : List OutputField)
  | input (name : String) (fields : List InputField)
  | enum (name : String) (items : List String)
  /-- A scalar whose values are date and time literals, with its description. -/
  | dateTime (name description : String)
  deriving DecidableEq

/-- The name of a type. -/
def ApiType.name : ApiType → String
  | .object name _ => name
  | .input name _ => name
  | .enum name _ => name
  | .dateTime name _ => name

/-- The scalars that every schema has. -/
def builtInScalars : List String := ["Int", "Float", "Boolean", "String", "ID"]

/-- The name of the root type. -/
def queryRoot : String := "Query"

/-- A collection of types in the order of their registration. -/
structure Schema where
  types : List ApiType
  deriving DecidableEq

namespace Schema

/-- The type with this name. -/
def type? (s : Schema) (name : String) : Option ApiType :=
  s.types.find? (·.name == name)

/-- Adds a type, in the place of one with the same name. -/
def register (s : Schema) (t : ApiType) : Schema :=
  if s.types.any (·.name == t.name) then
    ⟨s.types.map fun u => if u.name == t.name then t else u⟩
  else ⟨s.types ++ [t]⟩

/-- Whether a type of this name exists. -/
def hasType (s : Schema) (name : String) : Bool :=
  builtInScalars.contains name || (s.type? name).isSome

/-- Whether fields may return the type of this name. Built-in scalars take precedence. -/
def isOutput (s : Schema) (name : String) : Bool :=
  builtInScalars.contains name ||
    match s.type? name with
    | some (.input ..) => false
    | _ => true

/-- Whether arguments may have the type of this name. Built-in scalars take precedence. -/
def isInput (s : Schema) (name : String) : Bool :=
  builtInScalars.contains name ||
    match s.type? name with
    | some (.object ..) => false
    | _ => true

/-- Whether a name is reserved for introspection. -/
def isReserved (name : String) : Bool :=
  ['_', '_'].isPrefixOf name.toList

/-- The type names that a type refers to, in order. -/
def references : ApiType → List String
  | .object _ fields => fields.flatMap fun f =>
    f.type.coreName :: f.arguments.map (·.type.coreName)
  | .input _ fields => fields.map (·.type.coreName)
  | _ => []

/-- A fault where a condition holds. -/
def faultIf (condition : Bool) (fault : TypeFault) : List TypeFault :=
  if condition then [fault] else []

/-- The faults of a field of an object. -/
def outputFaults (s : Schema) (type : String) (f : OutputField) : List TypeFault :=
  faultIf (isReserved f.name) (.reservedName type f.name) ++
    faultIf (!s.isOutput f.type.coreName) (.notOutput type f.name) ++
    f.arguments.flatMap fun a =>
      faultIf (!s.isInput a.type.coreName) (.argumentNotInput type f.name a.name)

/-- The faults of an object. -/
def objectFaults (s : Schema) : ApiType → List TypeFault
  | .object name fields =>
    faultIf fields.isEmpty (.noFields name) ++ fields.flatMap (s.outputFaults name)
  | _ => []

/-- The faults of an input type. -/
def inputFaults (s : Schema) : ApiType → List TypeFault
  | .input name fields => fields.flatMap fun f =>
    faultIf (isReserved f.name) (.reservedName name f.name) ++
      faultIf (!s.isInput f.type.coreName) (.fieldNotInput name f.name)
  | _ => []

/-- Whether the root type is an object. -/
def rootIsObject (s : Schema) : Bool :=
  match s.type? queryRoot with
  | some (.object ..) => true
  | _ => false

/-- What keeps the types from being a schema. -/
def faults (s : Schema) : List TypeFault :=
  ((s.types.map (·.name)).filter builtInScalars.contains).map .alreadyExists ++
    ((s.types.flatMap references).filter (!s.hasType ·)).map .notFound ++
    faultIf (!s.rootIsObject) .rootNotObject ++
    s.types.flatMap s.objectFaults ++
    s.types.flatMap s.inputFaults

/-- An argument or input field as it is printed. -/
def renderInput (f : InputField) : String := f.name ++ ": " ++ f.type.render

/-- A field of an object as it is printed. -/
def renderOutput (f : OutputField) : String :=
  f.name ++
    (if f.arguments.isEmpty then ""
      else "(" ++ ", ".intercalate (f.arguments.map renderInput) ++ ")") ++
    ": " ++ f.type.render

/-- A type with members, one to a line. -/
def renderMembers (keyword name : String) (members : List String) : String :=
  keyword ++ " " ++ name ++ " \x7b\n" ++ String.join (members.map fun m => "\t" ++ m ++ "\n") ++
    "\x7d\n\n"

/-- A type as it is printed, followed by an empty line. -/
def renderType : ApiType → String
  | .object name fields => renderMembers "type" name (fields.map renderOutput)
  | .input name fields => renderMembers "input" name (fields.map renderInput)
  | .enum name items => renderMembers "enum" name items
  | .dateTime name description =>
    "\"\"\"\n" ++ description ++ "\n\"\"\"\nscalar " ++ name ++ "\n\n"

/-- Inserts a type into types sorted by name. -/
def insertByName (t : ApiType) : List ApiType → List ApiType
  | [] => [t]
  | u :: rest => if t.name < u.name then t :: u :: rest else u :: insertByName t rest

/-- The types sorted by name. -/
def sortByName (types : List ApiType) : List ApiType :=
  types.foldr insertByName []

/-- The definitions of the directives that every schema has, and of its root. -/
def closingText : String :=
  "\"\"\"\n" ++
  "Directs the executor to include this field or fragment only when the \x60if\x60 argument is " ++
  "true.\n\"\"\"\n" ++
  "directive @include(if: Boolean!) on FIELD | FRAGMENT_SPREAD | INLINE_FRAGMENT\n" ++
  "\"\"\"\n" ++
  "Directs the executor to skip this field or fragment when the \x60if\x60 argument is " ++
  "true.\n\"\"\"\n" ++
  "directive @skip(if: Boolean!) on FIELD | FRAGMENT_SPREAD | INLINE_FRAGMENT\n" ++
  "schema \x7b\n\tquery: " ++ queryRoot ++ "\n\x7d\n"

/-- The text of a schema: its types sorted by name, without those reserved for introspection. -/
def render (s : Schema) : String :=
  String.join ((sortByName (s.types.filter (!isReserved ·.name))).map renderType) ++ closingText

end Schema

end DataModel.Api
