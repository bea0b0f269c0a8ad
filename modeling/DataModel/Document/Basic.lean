import DataModel.Number.Binary64

/-!
# Data model documents

The compiled form of a data model: object types with their fields, enum types, and the options that
directives attach to them. A document lists both kinds of type in declaration order. Look-ups by
name take the first declaration of that name.

The structures admit documents that make no sense, such as a relation to a type that is not
declared; `DataModel.Document.Validation` says which ones make sense.
-/

namespace DataModel

/-- The built-in scalar types. -/
inductive ScalarType where
  | id
  | string
  | int
  | float
  | boolean
  | dateTime
  deriving Repr, DecidableEq

namespace ScalarType

/-- The name of the scalar in declarations. -/
def name : ScalarType → String
  | .id => "ID"
  | .string => "String"
  | .int => "Int"
  | .float => "Float"
  | .boolean => "Boolean"
  | .dateTime => "DateTime"

/-- All scalar types. -/
def all : List ScalarType := [.id, .string, .int, .float, .boolean, .dateTime]

/-- The scalar with this name. -/
def ofName? (name : String) : Option ScalarType :=
  all.find? (·.name == name)

/-- Whether values of the type can be compared for order. -/
def isOrdered (s : ScalarType) : Bool :=
  s ≠ .boolean

end ScalarType

/-- What the declared type of a field is. -/
inductive FieldKind where
  | scalar (type : ScalarType)
  | enum
  | relation
  deriving Repr, DecidableEq

/-- A declared default. -/
inductive DefaultValue where
  | string (value : String)
  | int (value : Int64)
  | float (value : Binary64)
  | boolean (value : Bool)
  | enum (value : String)
  deriving DecidableEq

/-- The text of a string or enum default. -/
def DefaultValue.string? : DefaultValue → Option String
  | .string s => some s
  | .enum s => some s
  | _ => none

/-- Options of a field. -/
structure FieldOptions where
  defaultValue : Option DefaultValue := none
  maxLength : Option UInt32 := none
  relationName : Option String := none
  deriving DecidableEq

/-- A uniqueness constraint over columns. -/
structure UniqueConstraint where
  name : Option String := none
  fields : List String
  deriving Repr, DecidableEq

/-- The label of a constraint or index: its name, or its fields joined by underscores. -/
def constraintLabel (name : Option String) (fields : List String) : String :=
  name.getD ("_".intercalate fields)

/-- The label of a constraint. -/
def UniqueConstraint.label (c : UniqueConstraint) : String :=
  constraintLabel c.name c.fields

/-- A secondary index over columns; its type is passed on as it is. -/
structure Index where
  name : Option String := none
  fields : List String
  indexType : Option String := none
  deriving Repr, DecidableEq

/-- The label of an index. -/
def Index.label (i : Index) : String :=
  constraintLabel i.name i.fields

/-- Options of an object type. -/
structure TypeOptions where
  uniqueConstraints : List UniqueConstraint := []
  indexes : List Index := []
  deriving Repr, DecidableEq

/-- A field of an object type. -/
structure Field where
  name : String
  /-- The object type that declares the field. -/
  owner : String := ""
  typeName : String
  kind : FieldKind
  required : Bool := false
  list : Bool := false
  options : FieldOptions := {}
  deriving DecidableEq

/-- The length of a string column without a declared maximum. -/
def defaultMaxLength : UInt32 := 255

namespace Field

/-- The scalar type of a scalar field. -/
def scalar? (f : Field) : Option ScalarType :=
  match f.kind with
  | .scalar s => some s
  | _ => none

/-- Whether the field has a scalar type. -/
def isScalar (f : Field) : Bool := f.scalar?.isSome

/-- Whether the field has an enum type. -/
def isEnum (f : Field) : Bool := f.kind = .enum

/-- Whether the field refers to an object type. -/
def isRelation (f : Field) : Bool := f.kind = .relation

/-- Whether the field is stored in a column of its own name. -/
def isValue (f : Field) : Bool := f.isScalar || f.isEnum

/-- The declared maximum length or the default one. -/
def maxLength (f : Field) : UInt32 := f.options.maxLength.getD defaultMaxLength

/-- The hint that names the relation of the field. -/
def hint (f : Field) : Option String := f.options.relationName

/-- Whether the field is an identifier. -/
def isId (f : Field) : Bool := f.kind = .scalar .id

end Field

/-- An object type. -/
structure ObjectType where
  name : String
  fields : List Field
  options : TypeOptions := {}
  deriving DecidableEq

namespace ObjectType

/-- An object type that owns its fields. -/
def of (name : String) (fields : List Field) (options : TypeOptions) : ObjectType :=
  ⟨name, fields.map fun f => { f with owner := name }, options⟩

/-- The first field with this name. -/
def field? (t : ObjectType) (name : String) : Option Field :=
  t.fields.find? (·.name == name)

/-- The fields with scalar types. -/
def scalarFields (t : ObjectType) : List Field := t.fields.filter (·.isScalar)

/-- The fields with enum types. -/
def enumFields (t : ObjectType) : List Field := t.fields.filter (·.isEnum)

/-- The fields that refer to object types. -/
def relationFields (t : ObjectType) : List Field := t.fields.filter (·.isRelation)

/-- The fields stored in columns of their own names. -/
def valueFields (t : ObjectType) : List Field := t.fields.filter (·.isValue)

/-- The first field with this name, if it has a column of its own. -/
def valueField? (t : ObjectType) (name : String) : Option Field :=
  (t.field? name).filter (·.isValue)

/-- The primary key: the first identifier. -/
def primaryKey? (t : ObjectType) : Option Field := t.fields.find? (·.isId)

end ObjectType

/-- The first name that occurs in `seen` or earlier in the list. -/
def firstRepeated? (seen : List String) : List String → Option String
  | [] => none
  | name :: rest => if seen.contains name then some name else firstRepeated? (name :: seen) rest

/-- An enum type and its values. -/
structure EnumType where
  name : String
  values : List String
  deriving Repr, DecidableEq

/-- A data model: object types and enum types in declaration order. -/
structure Document where
  objectTypes : List ObjectType
  enumTypes : List EnumType
  deriving DecidableEq

namespace Document

/-- The first object type with this name. -/
def objectType? (d : Document) (name : String) : Option ObjectType :=
  d.objectTypes.find? (·.name == name)

/-- The first enum type with this name. -/
def enumType? (d : Document) (name : String) : Option EnumType :=
  d.enumTypes.find? (·.name == name)

/-- The relation fields with their types, in declaration order. -/
def relationFields (d : Document) : List (ObjectType × Field) :=
  d.objectTypes.flatMap fun t => t.relationFields.map (t, ·)

/-- The primary key of the object type with this name. -/
def primaryKeyOf? (d : Document) (typeName : String) : Option Field :=
  (d.objectType? typeName).bind (·.primaryKey?)

/-- Whether some field is a date and time. -/
def usesDateTime (d : Document) : Bool :=
  d.objectTypes.any fun t => t.fields.any fun f => f.kind = .scalar .dateTime

end Document

end DataModel
