import DataModel.Api.Schema

/-!
# The API of a data model

`Schema.generate` derives an API from a data model and its relations. Every object type yields an
output type, an input for lists, an input for single rows with one nested input for each constraint
over several fields, an enum of orders, and two fields of the root. Enum types are taken over, and
the scalar for dates is added where some field needs it.

Types are built field by field, and a second field of one name aborts the generation.
-/

namespace DataModel.Api

/-- The name of the scalar for dates. -/
def dateTimeName : String := "DateTime"

/-- The scalar for dates. -/
def dateTimeScalar : ApiType := .dateTime dateTimeName "ISO-8601 encoded date-time"

/-- A type of this name or null. -/
def nullable (name : String) : TypeExpr := .named name

/-- A type of this name. -/
def required (name : String) : TypeExpr := .nonNull (.named name)

/-- A list of values of this type, or null. -/
def nullableList (name : String) : TypeExpr := .list (required name)

/-- A list of values of this type. -/
def requiredList (name : String) : TypeExpr := .nonNull (nullableList name)

/-- The name of the input for lists. -/
def whereInputName (t : ObjectType) : String := t.name ++ "WhereInput"

/-- The name of the input for single rows. -/
def uniqueInputName (t : ObjectType) : String := t.name ++ "WhereUniqueInput"

/-- The name of the enum of orders. -/
def orderInputName (t : ObjectType) : String := t.name ++ "OrderByInput"

/-- The name of the input for a constraint over several fields. -/
def nestedInputName (t : ObjectType) (label : String) : String :=
  t.name ++ Text.upperCamelCase label ++ "UniqueInput"

/-- The API type of a scalar or enum field. -/
def valueTypeName? (f : Field) : Option String :=
  match f.kind with
  | .scalar s => some s.name
  | .enum => some f.typeName
  | .relation => none

/-- The names without later repetitions. -/
def distinctNames (names : List String) : List String :=
  names.foldl (fun done name => if done.contains name then done else done ++ [name]) []

/-- An enum type of the API. A repeated item counts once. -/
def enumOf (e : EnumType) : ApiType := .enum e.name (distinctNames e.values)

/-- The fields of an input type, unless two have one name. -/
def inputOf (name : String) (fields : List InputField) : Except SchemaError ApiType :=
  match firstRepeated? [] (fields.map (·.name)) with
  | some f => .error (.repeatedField name f)
  | none => .ok (.input name fields)

/-- The output field of a scalar or enum field. An identifier always has a value. -/
def valueField (f : Field) (typeName : String) : OutputField where
  name := f.name
  type := if f.required || f.isId then required typeName else nullable typeName
  arguments := []
  resolver := .column f.name f.kind

/-- The type of a relation field: a list always has a value. -/
def relationType (f : Field) : TypeExpr :=
  if f.list then requiredList f.typeName
  else if f.required then required f.typeName
  else nullable f.typeName

/-- The output field of a field. -/
def outputField (d : Document) (set : RelationSet) (t : ObjectType) (f : Field) :
    Except SchemaError OutputField :=
  match valueTypeName? f with
  | some typeName => .ok (valueField f typeName)
  | none =>
    match set.forField? t.name f.name with
    | none => .error (.unresolvedRelation t.name f.name)
    | some (r, side) => do
      let binding ← Binding.of d r side
      return ⟨f.name, relationType f, [], .relation binding⟩

/-- The fields of an object with one more, unless it repeats a name. -/
def addField (type : String) (fields : List OutputField) (f : OutputField) :
    Except SchemaError (List OutputField) :=
  if fields.any (·.name == f.name) then .error (.repeatedField type f.name)
  else .ok (fields ++ [f])

/-- The output type of an object type. -/
def objectOf (d : Document) (set : RelationSet) (t : ObjectType) : Except SchemaError ApiType := do
  let fields ← t.fields.foldlM
    (fun fields f => do
      let field ← outputField d set t f
      addField t.name fields field)
    []
  return .object t.name fields

/-- The input fields of a scalar or enum field, one for each of its operators. -/
def operatorFields (f : Field) : List InputField :=
  match valueTypeName? f with
  | none => []
  | some typeName => (Operator.ofField f).map fun o =>
    ⟨f.name ++ o.suffix, if o.takesList then nullableList typeName else nullable typeName⟩

/-- The keys that combine nested inputs. -/
def combinators : List String := ["_and", "_or", "_not"]

/-- The fields of the input for lists. -/
def whereFields (t : ObjectType) : List InputField :=
  t.fields.flatMap operatorFields ++
    combinators.map fun c => ⟨c, nullableList (whereInputName t)⟩

/-- The input for lists. -/
def whereInput (t : ObjectType) : Except SchemaError ApiType :=
  inputOf (whereInputName t) (whereFields t)

/-- The field that a constraint names. -/
def constraintField (t : ObjectType) (name : String) : Except SchemaError Field :=
  match t.field? name with
  | some f => .ok f
  | none => .error (.unknownConstraintField t.name name)

/-- The API type of a constraint field; a field without one counts as text. -/
def constraintTypeName (f : Field) : String :=
  (valueTypeName? f).getD "String"

/-- The nested input of a constraint over several fields. -/
def nestedInput (t : ObjectType) (label : String) (fields : List String) :
    Except SchemaError ApiType := do
  let fields ← fields.foldlM
    (fun (done : List InputField) name => do
      let f ← constraintField t name
      if done.any (·.name == f.name) then .error (.repeatedField (nestedInputName t label) f.name)
      else return done ++ [⟨f.name, required (constraintTypeName f)⟩])
    []
  return .input (nestedInputName t label) fields

/-- What a constraint contributes to the input for single rows: a field, and a nested input where it
is not about a single field. -/
def constraintInput (t : ObjectType) (c : UniqueConstraint) :
    Except SchemaError (InputField × Option ApiType) :=
  match c.fields with
  | [single] => do
    let f ← constraintField t single
    return (⟨f.name, nullable (constraintTypeName f)⟩, none)
  | fields =>
    if (t.field? c.label).isSome then .error (.labelCollision c.label t.name)
    else do
      let nested ← nestedInput t c.label fields
      return (⟨c.label, nullable (nestedInputName t c.label)⟩, some nested)

/-- The input fields without later ones of a name that occurred. -/
def distinctFields (fields : List InputField) : List InputField :=
  fields.foldl (fun done f => if done.any (·.name == f.name) then done else done ++ [f]) []

/-- The field for the primary key. -/
def keyFields (t : ObjectType) : List InputField :=
  match t.primaryKey? with
  | some key => [⟨key.name, nullable ScalarType.id.name⟩]
  | none => []

/-- The input for single rows and its nested inputs. -/
def uniqueInputs (t : ObjectType) : Except SchemaError (List ApiType) := do
  let parts ← t.options.uniqueConstraints.mapM (constraintInput t)
  let input ← inputOf (uniqueInputName t) <|
    distinctFields (keyFields t ++ parts.map (·.1)) ++
      [⟨"_or", nullableList (uniqueInputName t)⟩]
  return input :: parts.filterMap (·.2)

/-- The items of the enum of orders: two for each scalar field. -/
def orderItems (t : ObjectType) : List String :=
  t.scalarFields.flatMap fun f =>
    [f.name ++ Direction.asc.suffix, f.name ++ Direction.desc.suffix]

/-- The enum of orders of a type that has scalar fields. -/
def orderInput? (t : ObjectType) : Option ApiType :=
  if t.scalarFields.isEmpty then none
  else some (.enum (orderInputName t) (distinctNames (orderItems t)))

/-- The root field for a single row. -/
def lookupField (t : ObjectType) : OutputField where
  name := Text.lowerCamelCase t.name
  type := nullable t.name
  arguments := [⟨"where", required (uniqueInputName t)⟩]
  resolver := .lookup t

/-- The root field for a list of rows. -/
def listingField (t : ObjectType) : OutputField where
  name := Text.lowerCamelCase (pluralize t.name)
  type := requiredList t.name
  arguments :=
    ⟨"where", nullable (whereInputName t)⟩ ::
      (if (orderInput? t).isSome then [⟨"orderBy", nullableList (orderInputName t)⟩] else [])
  resolver := .listing t

/-- What has been generated so far: the fields of the root and the other types. -/
structure Draft where
  rootFields : List OutputField
  types : List ApiType

/-- Adds an object type to a draft. -/
def Draft.addObjectType (d : Document) (set : RelationSet) (draft : Draft) (t : ObjectType) :
    Except SchemaError Draft := do
  let object ← objectOf d set t
  let list ← whereInput t
  let unique ← uniqueInputs t
  let rootFields ← addField queryRoot draft.rootFields (lookupField t)
  let rootFields ← addField queryRoot rootFields (listingField t)
  return ⟨rootFields, draft.types ++ object :: list :: unique ++ (orderInput? t).toList⟩

/-- The draft before any object type. -/
def Draft.initial (d : Document) : Draft :=
  ⟨[], d.enumTypes.map enumOf ++ (if d.usesDateTime then [dateTimeScalar] else [])⟩

/-- The schema of a draft, the root first. -/
def Draft.toSchema (draft : Draft) : Schema :=
  draft.types.foldl Schema.register ⟨[.object queryRoot draft.rootFields]⟩

/-- The API of a data model. -/
def Schema.generate (d : Document) (set : RelationSet) : Except SchemaError Schema :=
  if d.objectTypes.isEmpty then .error .noObjectTypes
  else do
    let draft ← d.objectTypes.foldlM (Draft.addObjectType d set) (Draft.initial d)
    match draft.toSchema.faults with
    | [] => return draft.toSchema
    | fault :: _ => .error (.invalidTypes fault)

end DataModel.Api
