import DataModel.Number.Binary64
import DataModel.TypeExpr

/-!
# Schema documents

The syntax tree of a schema document, reduced to what a data model is made of: object and enum
types, the types of fields and the directives on types and fields.
-/

namespace DataModel.Sdl

/-- A literal in a directive. -/
inductive Value where
  | null
  | boolean (value : Bool)
  | int (value : Int64)
  | float (value : Binary64)
  | string (value : String)
  | enum (value : String)
  | list (items : List Value)
  | object (entries : List (String × Value))

namespace Value

/-- The text of a string literal. -/
def string? : Value → Option String
  | .string s => some s
  | _ => none

/-- The items of a list literal. -/
def list? : Value → Option (List Value)
  | .list items => some items
  | _ => none

/-- The value of the first entry with this key of an object literal. -/
def get? (key : String) : Value → Option Value
  | .object entries => entries.lookup key
  | _ => none

/-- The kind of a literal, as messages call it. -/
def kindName : Value → String
  | .null => "null"
  | .boolean _ => "boolean"
  | .int _ => "int"
  | .float _ => "float"
  | .string _ => "string"
  | .enum _ => "enum"
  | .list _ => "list"
  | .object _ => "object"

end Value

/-- An argument of a directive. -/
structure Argument where
  name : String
  value : Value

/-- A directive and its arguments in order, repetitions included. -/
structure Directive where
  name : String
  arguments : List Argument

/-- The value of the first argument with this name. -/
def Directive.argument? (d : Directive) (name : String) : Option Value :=
  (d.arguments.find? (·.name == name)).map (·.value)

/-- A field of an object type. -/
structure FieldDefinition where
  name : String
  type : TypeExpr
  directives : List Directive

/-- An object type. -/
structure ObjectDefinition where
  name : String
  fields : List FieldDefinition
  directives : List Directive

/-- An enum type and its values. -/
structure EnumDefinition where
  name : String
  values : List String

/-- A definition that contributes to the data model. -/
inductive Definition where
  | object (definition : ObjectDefinition)
  | enum (definition : EnumDefinition)

/-- The declared name. -/
def Definition.name : Definition → String
  | .object d => d.name
  | .enum d => d.name

/-- A schema document: its object and enum types in source order. -/
structure Schema where
  definitions : List Definition

/-- The object types in source order. -/
def Schema.objects (s : Schema) : List ObjectDefinition :=
  s.definitions.filterMap fun
    | .object d => some d
    | .enum _ => none

/-- The enum types in source order. -/
def Schema.enums (s : Schema) : List EnumDefinition :=
  s.definitions.filterMap fun
    | .object _ => none
    | .enum d => some d

end DataModel.Sdl
