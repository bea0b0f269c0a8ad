import DataModel.Relation.Resolution
import DataModel.Sql.Statement

/-!
# Tables of a data model

How a data model is stored. Every object type has a table: scalar columns first, then enum columns,
then the reference columns of the relation fields that own one, then constraints, indexes and two
audit columns. The tables come first, in the order of the types; after them every relation
contributes either its foreign keys or its junction table.

A foreign key is added once all tables stand, so types may refer to each other in any order.
-/

namespace DataModel.Sql

/-- Why a document has no tables. None of these arises from a validated document with its own
relations. -/
inductive TableError where
  | unsupportedScalar (objectType field typeName : String)
  | unknownType (name : String)
  | unresolvedRelation (objectType field : String)
  | missingPrimaryKey (objectType : String)
  deriving Repr, DecidableEq

/-- The wording of an error. -/
def TableError.message : TableError → String
  | .unsupportedScalar t f n =>
    "Field " ++ t ++ "." ++ f ++ " of type " ++ n ++ " has no column type"
  | .unknownType n => "Unknown type: " ++ n
  | .unresolvedRelation t f => "Relation field " ++ t ++ "." ++ f ++ " was not resolved"
  | .missingPrimaryKey t => "Object type " ++ t ++ " is referenced but has no primary key"

/-- The name of a constraint that has none of its own: table, columns and purpose, in small
letters. -/
def constraintName (table : String) (columns : List String) (purpose : String) : String :=
  Text.lowercase (table ++ "_" ++ "_".intercalate columns ++ "_" ++ purpose)

/-- The column type that stores a scalar. -/
def scalarType (f : Field) : ScalarType → ColumnType
  | .id => .key
  | .string => .varchar f.maxLength
  | .int => .int
  | .float => .float
  | .boolean => .boolean
  | .dateTime => .dateTime

/-- The column of a scalar field. The primary key is numbered by the database, whatever its field
declares. -/
def scalarColumn (t : ObjectType) (f : Field) : Except TableError Column :=
  match f.scalar? with
  | none => .error (.unsupportedScalar t.name f.name f.typeName)
  | some scalar =>
    if t.primaryKey?.map (·.name) = some f.name then .ok ⟨f.name, .primaryKey⟩
    else .ok ⟨f.name, .value (scalarType f scalar) f.required f.options.defaultValue⟩

/-- The column of an enum field, which lists the values of its type. -/
def enumColumn (d : Document) (f : Field) : Except TableError Column :=
  match d.enumType? f.typeName with
  | none => .error (.unknownType f.typeName)
  | some e => .ok ⟨f.name, .value (.enum e.values) f.required f.options.defaultValue⟩

/-- The reference column of a relation field, if the field owns one. -/
def referenceColumn? (set : RelationSet) (t : ObjectType) (f : Field) :
    Except TableError (Option Column) :=
  match set.forField? t.name f.name with
  | none => .error (.unresolvedRelation t.name f.name)
  | some (r, side) =>
    if r.ownsReference side then
      .ok (some ⟨r.referenceColumn side, .value .key f.required none⟩)
    else .ok none

/-- The line of a uniqueness constraint. -/
def uniqueLine (table : String) (c : UniqueConstraint) : TableLine :=
  .unique (c.name.getD (constraintName table c.fields "unique")) c.fields

/-- The line of an index. -/
def indexLine (table : String) (i : Index) : TableLine :=
  .index i.indexType (i.name.getD (constraintName table i.fields "index")) i.fields

/-- The columns that every table of an object type ends with. -/
def auditColumns : List Column := [⟨"created_at", .createdAt⟩, ⟨"updated_at", .updatedAt⟩]

/-- The table of an object type. -/
def tableOf (d : Document) (set : RelationSet) (t : ObjectType) : Except TableError Statement := do
  let table := tableName t.name
  let scalars ← t.scalarFields.mapM (scalarColumn t)
  let enums ← t.enumFields.mapM (enumColumn d)
  let references ← t.relationFields.mapM (referenceColumn? set t)
  return .createTable table <|
    (scalars ++ enums ++ references.filterMap id).map .column ++
    t.options.uniqueConstraints.map (uniqueLine table) ++
    t.options.indexes.map (indexLine table) ++
    auditColumns.map .column

/-- The foreign key from a column to the primary key of an object type. -/
def foreignKeyTo (d : Document) (table column targetType : String) :
    Except TableError ForeignKey :=
  match d.objectType? targetType with
  | none => .error (.unknownType targetType)
  | some target =>
    match target.primaryKey? with
    | none => .error (.missingPrimaryKey targetType)
    | some key =>
      .ok ⟨constraintName table [column] "foreign", column, tableName target.name, key.name⟩

/-- The statement that adds the foreign key of a side's reference column. -/
def foreignKeyOf (d : Document) (r : Relation) (side : Side) : Except TableError Statement := do
  let table := tableName (r.onSide side).objectType
  let key ← foreignKeyTo d table (r.referenceColumn side) (r.onSide side.opposite).objectType
  return .addForeignKey table key

/-- The junction table of a many-to-many relation: two key columns and their foreign keys. -/
def junctionOf (d : Document) (r : Relation) : Except TableError Statement := do
  let columns := Side.both.map fun side =>
    TableLine.column ⟨r.junctionColumn side, .value .key true none⟩
  let keys ← Side.both.mapM fun side =>
    foreignKeyTo d r.junctionTable (r.junctionColumn side) (r.onSide side).objectType
  return .createTable r.junctionTable (columns ++ keys.map .foreignKey)

/-- The statements of a relation. -/
def relationStatements (d : Document) (r : Relation) : Except TableError (List Statement) :=
  match r.cardinality with
  | .manyToMany => do return [← junctionOf d r]
  | _ => (Side.both.filter r.ownsReference).mapM (foreignKeyOf d r)

/-- The statements that store a data model. -/
def statements (d : Document) (set : RelationSet) : Except TableError (List Statement) := do
  let tables ← d.objectTypes.mapM (tableOf d set)
  let others ← set.relations.mapM (relationStatements d)
  return tables ++ others.flatten

end DataModel.Sql
