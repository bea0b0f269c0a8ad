import DataModel.Document.DateTime
import DataModel.Document.Error

/-!
# Validation of documents

`Document.validated` admits exactly the documents that make sense on their own: names that have to
be distinct are, every field has the kind that its type name stands for, every default fits its
field, and every constraint is about columns of its own type. The checks run in a fixed order and
the first failure is reported: type names, enum values, then each object type field by field and
its constraints last.
-/

namespace DataModel

namespace Document

/-- Whether the declared type name stands for the kind of the field. -/
def kindIsKnown (d : Document) (f : Field) : Bool :=
  match f.kind with
  | .scalar s => s.name == f.typeName
  | .enum => (d.enumType? f.typeName).isSome
  | .relation => (d.objectType? f.typeName).isSome

/-- What is wrong with a default on a field, if anything. -/
def defaultFault? (d : Document) (f : Field) (value : DefaultValue) : Option DefaultFault :=
  let member (v : String) : Option DefaultFault :=
    if (d.enumType? f.typeName).any (·.values.contains v) then none
    else some (.notMember v f.typeName)
  match f.kind, value with
  | .relation, _ => some .relationField
  | .scalar .id, _ => some .idField
  | .scalar .string, .string s =>
    if f.maxLength.toNat < s.length then some (.tooLong f.maxLength) else none
  | .scalar .int, .int _ => none
  | .scalar .float, .int _ => none
  | .scalar .float, .float _ => none
  | .scalar .boolean, .boolean _ => none
  | .scalar .dateTime, .string s => if DateTime.isLiteral s then none else some (.notDateTime s)
  | .enum, .enum v => member v
  | .enum, .string v => member v
  | _, value => some (.mismatch value f.typeName)

/-- Checks one field apart from its name. -/
def checkField (d : Document) (t : ObjectType) (f : Field) : Except ModelError Unit :=
  if !d.kindIsKnown f then .error (.unknownType t.name f.name f.typeName)
  else
    match f.options.defaultValue.bind (d.defaultFault? f) with
    | some fault => .error (.invalidDefault t.name f.name fault)
    | none => .ok ()

/-- Checks the fields of a type, where fields named in `seen` come before them. -/
def checkFields (d : Document) (t : ObjectType) (seen : List String) :
    List Field → Except ModelError Unit
  | [] => .ok ()
  | f :: rest =>
    if seen.contains f.name then .error (.duplicateField t.name f.name)
    else do
      d.checkField t f
      d.checkFields t (f.name :: seen) rest

/-- The column lists of a type with their labels: constraints first, then indexes. -/
def columnLists (t : ObjectType) : List (String × List String) :=
  t.options.uniqueConstraints.map (fun c => (c.label, c.fields)) ++
    t.options.indexes.map (fun i => (i.label, i.fields))

/-- Checks one column list: it has columns, and each is a scalar or enum field. -/
def checkColumns (t : ObjectType) (label : String) (fields : List String) :
    Except ModelError Unit :=
  if fields.isEmpty then .error (.unknownConstraintField t.name label "")
  else
    match fields.find? fun name => (t.valueField? name).isNone with
    | some name => .error (.unknownConstraintField t.name label name)
    | none => .ok ()

/-- Checks one object type. -/
def checkObjectType (d : Document) (t : ObjectType) : Except ModelError Unit := do
  d.checkFields t [] t.fields
  (columnLists t).forM fun (label, fields) => checkColumns t label fields

/-- Checks one enum type. -/
def checkEnumType (e : EnumType) : Except ModelError Unit :=
  match firstRepeated? [] e.values with
  | some value => .error (.duplicateEnumValue e.name value)
  | none => .ok ()

/-- All declared type names, object types first. -/
def typeNames (d : Document) : List String :=
  d.objectTypes.map (·.name) ++ d.enumTypes.map (·.name)

/-- Checks a document. -/
def check (d : Document) : Except ModelError Unit :=
  match firstRepeated? [] d.typeNames with
  | some name => .error (.duplicateType name)
  | none => do
    d.enumTypes.forM checkEnumType
    d.objectTypes.forM d.checkObjectType

/-- The document of the given types, if it makes sense. -/
def validated (objectTypes : List ObjectType) (enumTypes : List EnumType) :
    Except ModelError Document := do
  let d : Document := ⟨objectTypes, enumTypes⟩
  d.check
  return d

end Document

end DataModel
