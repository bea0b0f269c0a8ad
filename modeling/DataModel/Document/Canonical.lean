import DataModel.Document.Basic
import DataModel.Hash.Sha256
import DataModel.Json.Reader

/-!
# Canonical form and fingerprint

Every document has one JSON form: entries in a fixed order, absent options and empty lists left out.
The fingerprint of a document is the SHA-256 digest of the compact text of that form, so equal
documents have equal fingerprints.

`Document.ofJson?` reads the form back. It is more liberal than the form itself: entries may come in
any order, others may stand between them, an option may be null and the options of a field or type
may be left out.
-/

namespace DataModel

/-- The entry of an optional value, if there is one. -/
def optionalEntry {α : Type} (key : String) (encode : α → Json) : Option α → List (String × Json)
  | none => []
  | some a => [(key, encode a)]

/-- The entry of a list, if it is not empty. -/
def nonemptyEntry {α : Type} (key : String) (encode : α → Json) :
    List α → List (String × Json)
  | [] => []
  | items => [(key, .array (items.map encode))]

/-- A list of strings. -/
def stringsToJson (items : List String) : Json := .array (items.map .string)

namespace FieldKind

/-- JSON form of a kind. -/
def toJson : FieldKind → Json
  | .scalar s => .object [("kind", .string "Scalar"), ("scalar", .string s.name)]
  | .enum => .object [("kind", .string "Enum")]
  | .relation => .object [("kind", .string "Relation")]

/-- The kind with this JSON form. Only a scalar kind has anything to say about its scalar. -/
def ofJson? (j : Json) : Option FieldKind := do
  let kind ← j.entry? Json.string? "kind"
  let scalar ← j.optionalEntry? (Json.string? · |>.bind ScalarType.ofName?) "scalar"
  match kind, scalar with
  | "Scalar", some s => return .scalar s
  | "Enum", none => return .enum
  | "Relation", none => return .relation
  | _, _ => none

end FieldKind

namespace DefaultValue

/-- JSON form of a default. -/
def toJson : DefaultValue → Json
  | .string s => .object [("type", .string "String"), ("value", .string s)]
  | .int n => .object [("type", .string "Int"), ("value", .int n.toInt)]
  | .float x => .object [("type", .string "Float"), ("value", .float x)]
  | .boolean b => .object [("type", .string "Boolean"), ("value", .bool b)]
  | .enum s => .object [("type", .string "Enum"), ("value", .string s)]

/-- The default with this JSON form. -/
def ofJson? (j : Json) : Option DefaultValue := do
  let type ← j.entry? Json.string? "type"
  let value ← j.get? "value"
  if type = "String" then return .string (← value.string?)
  else if type = "Int" then return .int (← value.int64?)
  else if type = "Float" then return .float (← value.binary64?)
  else if type = "Boolean" then return .boolean (← value.bool?)
  else if type = "Enum" then return .enum (← value.string?)
  else none

end DefaultValue

namespace FieldOptions

/-- JSON form of field options. -/
def toJson (o : FieldOptions) : Json :=
  .object <|
    optionalEntry "default_value" DefaultValue.toJson o.defaultValue ++
    optionalEntry "max_length" (fun n => .int n.toNat) o.maxLength ++
    optionalEntry "relation_name" .string o.relationName

/-- The field options with this JSON form. -/
def ofJson? : Json → Option FieldOptions
  | .object entries => do
    let j := Json.object entries
    let defaultValue ← j.optionalEntry? DefaultValue.ofJson? "default_value"
    let maxLength ← j.optionalEntry? Json.uint32? "max_length"
    let relationName ← j.optionalEntry? Json.string? "relation_name"
    return { defaultValue, maxLength, relationName }
  | _ => none

end FieldOptions

namespace UniqueConstraint

/-- JSON form of a constraint. -/
def toJson (c : UniqueConstraint) : Json :=
  .object (optionalEntry "name" .string c.name ++ [("fields", stringsToJson c.fields)])

/-- The constraint with this JSON form. -/
def ofJson? (j : Json) : Option UniqueConstraint := do
  let name ← j.optionalEntry? Json.string? "name"
  let fields ← j.entry? (Json.list? Json.string?) "fields"
  return { name, fields }

end UniqueConstraint

namespace Index

/-- JSON form of an index. -/
def toJson (i : Index) : Json :=
  .object <|
    optionalEntry "name" .string i.name ++ [("fields", stringsToJson i.fields)] ++
    optionalEntry "index_type" .string i.indexType

/-- The index with this JSON form. -/
def ofJson? (j : Json) : Option Index := do
  let name ← j.optionalEntry? Json.string? "name"
  let fields ← j.entry? (Json.list? Json.string?) "fields"
  let indexType ← j.optionalEntry? Json.string? "index_type"
  return { name, fields, indexType }

end Index

namespace TypeOptions

/-- JSON form of type options. -/
def toJson (o : TypeOptions) : Json :=
  .object <|
    nonemptyEntry "unique_constraints" UniqueConstraint.toJson o.uniqueConstraints ++
    nonemptyEntry "indexes" Index.toJson o.indexes

/-- The type options with this JSON form. -/
def ofJson? : Json → Option TypeOptions
  | .object entries => do
    let j := Json.object entries
    let uniqueConstraints ←
      j.entryOr? [] (Json.list? UniqueConstraint.ofJson?) "unique_constraints"
    let indexes ← j.entryOr? [] (Json.list? Index.ofJson?) "indexes"
    return { uniqueConstraints, indexes }
  | _ => none

end TypeOptions

namespace Field

/-- JSON form of a field. -/
def toJson (f : Field) : Json :=
  .object [
    ("name", .string f.name), ("owner", .string f.owner), ("type_name", .string f.typeName),
    ("kind", f.kind.toJson), ("required", .bool f.required), ("list", .bool f.list),
    ("options", f.options.toJson)]

/-- The field with this JSON form. -/
def ofJson? (j : Json) : Option Field := do
  let name ← j.entry? Json.string? "name"
  let owner ← j.entry? Json.string? "owner"
  let typeName ← j.entry? Json.string? "type_name"
  let kind ← j.entry? FieldKind.ofJson? "kind"
  let required ← j.entry? Json.bool? "required"
  let list ← j.entry? Json.bool? "list"
  let options ← j.entryOr? {} FieldOptions.ofJson? "options"
  return { name, owner, typeName, kind, required, list, options }

end Field

namespace ObjectType

/-- JSON form of an object type. -/
def toJson (t : ObjectType) : Json :=
  .object [
    ("name", .string t.name), ("fields", .array (t.fields.map Field.toJson)),
    ("options", t.options.toJson)]

/-- The object type with this JSON form. -/
def ofJson? (j : Json) : Option ObjectType := do
  let name ← j.entry? Json.string? "name"
  let fields ← j.entry? (Json.list? Field.ofJson?) "fields"
  let options ← j.entryOr? {} TypeOptions.ofJson? "options"
  return { name, fields, options }

end ObjectType

namespace EnumType

/-- JSON form of an enum type. -/
def toJson (e : EnumType) : Json :=
  .object [("name", .string e.name), ("values", stringsToJson e.values)]

/-- The enum type with this JSON form. -/
def ofJson? (j : Json) : Option EnumType := do
  let name ← j.entry? Json.string? "name"
  let values ← j.entry? (Json.list? Json.string?) "values"
  return { name, values }

end EnumType

namespace Document

/-- JSON form of a document. -/
def toJson (d : Document) : Json :=
  .object [
    ("object_types", .array (d.objectTypes.map ObjectType.toJson)),
    ("enum_types", .array (d.enumTypes.map EnumType.toJson))]

/-- The document with this JSON form; whether it makes sense is not checked. -/
def ofJson? (j : Json) : Option Document := do
  let objectTypes ← j.entry? (Json.list? ObjectType.ofJson?) "object_types"
  let enumTypes ← j.entry? (Json.list? EnumType.ofJson?) "enum_types"
  return { objectTypes, enumTypes }

/-- The canonical text of a document. -/
def canonicalText (d : Document) : String :=
  d.toJson.render

/-- The fingerprint of a document: the digest of its canonical text. -/
def fingerprint (d : Document) : String :=
  Sha256.hex d.canonicalText

/-- The document that a text denotes. -/
def ofText? (text : String) : Option Document :=
  (Json.parse text).bind ofJson?

end Document

end DataModel
