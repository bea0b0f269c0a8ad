import DataModel.Api.Error
import DataModel.Relation.Resolution

/-!
# Bindings of relation fields

How a relation field reaches the rows on its other side: by a reference column of its own row, by a
column of the target rows that refers back, or through a junction table. The binding names tables
and columns only, so it can be compared with the statements that create them.
-/

namespace DataModel.Api

/-- The way from a row to the rows that a relation field stands for. -/
inductive Binding where
  /-- The row holds the key of its target. -/
  | reference (targetTable column : String)
  /-- The target rows hold the key of the row. -/
  | reverse (targetTable column primaryKey : String) (many : Bool)
  /-- A junction table pairs the keys. -/
  | junction (junction ownColumn otherColumn primaryKey targetTable targetPrimaryKey : String)
  deriving Repr, DecidableEq

namespace Binding

/-- The name of the primary key of an object type. -/
def primaryKey (d : Document) (objectType : String) : Except SchemaError String :=
  match d.primaryKeyOf? objectType with
  | some key => .ok key.name
  | none => .error (.missingPrimaryKey objectType)

/-- The binding of the field on a side of a relation. -/
def of (d : Document) (r : Relation) (side : Side) : Except SchemaError Binding :=
  let own := r.onSide side
  let other := r.onSide side.opposite
  if r.cardinality = .manyToMany then do
    let ownKey ← primaryKey d own.objectType
    let otherKey ← primaryKey d other.objectType
    return .junction r.junctionTable (r.junctionColumn side) (r.junctionColumn side.opposite)
      ownKey (tableName other.objectType) otherKey
  else if r.ownsReference side then
    .ok (.reference (tableName other.objectType) (r.referenceColumn side))
  else do
    let ownKey ← primaryKey d own.objectType
    return .reverse (tableName other.objectType) (r.referenceColumn side.opposite) ownKey own.list

end Binding

end DataModel.Api
