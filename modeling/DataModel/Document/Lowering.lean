import DataModel.Document.Validation
import DataModel.Sdl.Syntax

/-!
# From declarations to documents

`Schema.toDocument` reads a data model off its declarations. The type of a field is classified
against the built-in scalars and the declared names, in that order of precedence with enums before
object types, and the directives `@default`, `@maxLength`, `@relation` and `@options` become typed
options. Of several directives of one name the first counts, of several arguments likewise.
Directives and arguments of other names are passed over.
-/

namespace DataModel.Sdl

/-- The kind that a type name stands for. A scalar wins over an enum and an enum over an object
type. -/
def Schema.classify? (s : Schema) (typeName : String) : Option FieldKind :=
  match ScalarType.ofName? typeName with
  | some scalar => some (.scalar scalar)
  | none =>
    if s.enums.any (·.name == typeName) then some .enum
    else if s.objects.any (·.name == typeName) then some .relation
    else none

/-- The first directive with this name. -/
def directive? (directives : List Directive) (name : String) : Option Directive :=
  directives.find? (·.name == name)

/-- The default that a literal stands for. -/
def Value.toDefault? : Value → Option DefaultValue
  | .string s => some (.string s)
  | .int n => some (.int n)
  | .float x => some (.float x)
  | .boolean b => some (.boolean b)
  | .enum s => some (.enum s)
  | _ => none

/-- The text of a string or enum literal. -/
def Value.text? : Value → Option String
  | .string s => some s
  | .enum s => some s
  | _ => none

/-- The text under a key of an object literal; absent and null entries count as none. -/
def optionalText (entry : Value) (key : String) : Except DirectiveFault (Option String) :=
  match entry.get? key with
  | none => .ok none
  | some .null => .ok none
  | some v =>
    match v.text? with
    | some s => .ok (some s)
    | none => .error (.notString key v.kindName)

/-- The field names that a constraint or index lists. -/
def fieldNames (entry : Value) : Except DirectiveFault (List String) :=
  match (entry.get? "fields").bind Value.list? with
  | none => .error .notFieldNames
  | some items => items.mapM fun v =>
    match v.text? with
    | some s => .ok s
    | none => .error (.notFieldName v.kindName)

/-- A uniqueness constraint as an entry describes it. -/
def uniqueConstraint (entry : Value) : Except DirectiveFault UniqueConstraint := do
  let name ← optionalText entry "name"
  let fields ← fieldNames entry
  return ⟨name, fields⟩

/-- An index as an entry describes it. -/
def index (entry : Value) : Except DirectiveFault Index := do
  let name ← optionalText entry "name"
  let fields ← fieldNames entry
  let indexType ← optionalText entry "type"
  return ⟨name, fields, indexType⟩

/-- The items at a place that has to be a list; an absent place has none. -/
def itemsAt (place : String) : Option Value → Except DirectiveFault (List Value)
  | none => .ok []
  | some v =>
    match v.list? with
    | some items => .ok items
    | none => .error (.notList place)

/-- The options that `@options` describes, constraints before indexes. -/
def typeOptions (d : Directive) : Except DirectiveFault TypeOptions := do
  let unique ← itemsAt "constraints.unique" ((d.argument? "constraints").bind (·.get? "unique"))
  let uniqueConstraints ← unique.mapM uniqueConstraint
  let indexes ← itemsAt "indexes" (d.argument? "indexes")
  let indexes ← indexes.mapM index
  return ⟨uniqueConstraints, indexes⟩

/-- The default that `@default` declares. -/
def fieldDefault (typeName : String) (f : FieldDefinition) :
    Except ModelError (Option DefaultValue) :=
  match directive? f.directives "default" with
  | none => .ok none
  | some d =>
    match d.argument? "value" with
    | none => .error (.invalidDirective (typeName ++ "." ++ f.name) "default" .missingValue)
    | some v =>
      match v.toDefault? with
      | some value => .ok (some value)
      | none => .error (.invalidDefault typeName f.name (.literalKind v.kindName))

/-- The positive number of 32 bits that a literal denotes. -/
def Value.length? : Value → Option UInt32
  | .int n =>
    if n.toInt ≠ 0 && fitsUInt32 n.toInt then some (UInt32.ofNat n.toInt.toNat) else none
  | _ => none

/-- The length that `@maxLength` declares. -/
def fieldMaxLength (typeName : String) (f : FieldDefinition) :
    Except ModelError (Option UInt32) :=
  match directive? f.directives "maxLength" with
  | none => .ok none
  | some d =>
    match (d.argument? "value").bind Value.length? with
    | some n => .ok (some n)
    | none => .error (.invalidDirective (typeName ++ "." ++ f.name) "maxLength" .notPositive)

/-- The relation name that `@relation` declares. -/
def fieldRelationName (typeName : String) (f : FieldDefinition) :
    Except ModelError (Option String) :=
  match (directive? f.directives "relation").bind (·.argument? "name") with
  | none => .ok none
  | some (.string s) => .ok (some s)
  | some v =>
    .error (.invalidDirective (typeName ++ "." ++ f.name) "relation" (.notString "name" v.kindName))

/-- The field of the type `typeName` that a definition declares. -/
def Schema.lowerField (s : Schema) (typeName : String) (f : FieldDefinition) :
    Except ModelError Field :=
  let shape := f.type.shape
  match s.classify? shape.name with
  | none => .error (.unknownType typeName f.name shape.name)
  | some kind => do
    let defaultValue ← fieldDefault typeName f
    let maxLength ← fieldMaxLength typeName f
    let relationName ← fieldRelationName typeName f
    return {
      name := f.name
      owner := typeName
      typeName := shape.name
      kind
      required := shape.required
      list := shape.list
      options := { defaultValue, maxLength, relationName } }

/-- The object type that a definition declares. Its fields are read before its options. -/
def Schema.lowerObject (s : Schema) (o : ObjectDefinition) : Except ModelError ObjectType := do
  let fields ← o.fields.mapM (s.lowerField o.name)
  match directive? o.directives "options" with
  | none => return ⟨o.name, fields, {}⟩
  | some d =>
    match typeOptions d with
    | .ok options => return ⟨o.name, fields, options⟩
    | .error fault => .error (.invalidDirective o.name "options" fault)

/-- The enum type that a definition declares. -/
def EnumDefinition.lower (e : EnumDefinition) : EnumType := ⟨e.name, e.values⟩

/-- The document that the declarations describe. -/
def Schema.toDocument (s : Schema) : Except ModelError Document := do
  let objectTypes ← s.objects.mapM s.lowerObject
  Document.validated objectTypes (s.enums.map EnumDefinition.lower)

end DataModel.Sdl
