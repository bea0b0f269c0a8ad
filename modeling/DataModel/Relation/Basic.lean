import DataModel.Document.Basic
import DataModel.Naming

/-!
# Relations

A relation is a pair of relation fields that refer to each other's object types. Side A is the field
that was met first, side B its counterpart. From the two ends everything else follows: the
cardinality from their listness, the name from the hint they share or else from their names, the
place of the reference columns from the cardinality.

A single-valued field facing a list owns the reference column; of two single-valued fields both own
one, unless they stand on the same type, where the column of side A answers for both; two lists
are related through a junction table.
-/

namespace DataModel

/-- One of the two ends of a relation. -/
inductive Side where
  | a
  | b
  deriving Repr, DecidableEq

/-- The other side. -/
def Side.opposite : Side → Side
  | .a => .b
  | .b => .a

/-- Both sides in order. -/
def Side.both : List Side := [.a, .b]

/-- An end of a relation: a field and the object type that declares it. -/
structure RelationEnd where
  objectType : String
  field : String
  list : Bool
  required : Bool
  deriving Repr, DecidableEq

namespace RelationEnd

/-- The end at a field of an object type. -/
def of (t : ObjectType) (f : Field) : RelationEnd where
  objectType := t.name
  field := f.name
  list := f.list
  required := f.required

/-- The end as messages show it. -/
def display (e : RelationEnd) : String := e.objectType ++ "." ++ e.field

/-- Whether the end is the field with this name on the type with this name. -/
def isField (e : RelationEnd) (objectType field : String) : Bool :=
  e.objectType == objectType && e.field == field

end RelationEnd

/-- How many rows may stand on each side. -/
inductive Cardinality where
  | oneToOne
  /-- The owner is the single-valued side, whose table holds the reference column. -/
  | oneToMany (owner : Side)
  | manyToMany
  deriving Repr, DecidableEq

/-- Cardinality as seen from one side. -/
inductive RelationKind where
  | oneToOne
  | manyToOne
  | oneToMany
  | manyToMany
  deriving Repr, DecidableEq

/-- A pair of ends and the hint that names it, if any. -/
structure Relation where
  a : RelationEnd
  b : RelationEnd
  hint : Option String
  deriving Repr, DecidableEq

/-- Two texts joined in order, so that the result does not depend on which came first. -/
def sortedAppend (x y : String) : String :=
  if y < x then y ++ x else x ++ y

namespace Relation

/-- The end on a side. -/
def onSide (r : Relation) : Side → RelationEnd
  | .a => r.a
  | .b => r.b

/-- The cardinality, which the listness of the two ends decides. -/
def cardinality (r : Relation) : Cardinality :=
  match r.a.list, r.b.list with
  | false, false => .oneToOne
  | false, true => .oneToMany .a
  | true, false => .oneToMany .b
  | true, true => .manyToMany

/-- The name of a relation without hint: the field names for two single values, the owning type and
field where one side is a list, the type names for two lists. -/
def computedName (r : Relation) : String :=
  match r.cardinality with
  | .oneToOne => sortedAppend (capitalize r.a.field) (capitalize r.b.field)
  | .oneToMany owner =>
    capitalize (r.onSide owner).objectType ++ capitalize (r.onSide owner).field
  | .manyToMany => sortedAppend (capitalize r.a.objectType) (capitalize r.b.objectType)

/-- The name: the hint, or else the computed name. -/
def name (r : Relation) : String := r.hint.getD r.computedName

/-- Whether the name is a hint. -/
def hasExplicitName (r : Relation) : Bool := r.hint.isSome

/-- Whether both ends stand on one object type. -/
def isSelfReferencing (r : Relation) : Bool := r.a.objectType == r.b.objectType

/-- The side that a field is on; a field on both counts for side A. -/
def sideOf? (r : Relation) (objectType field : String) : Option Side :=
  if r.a.isField objectType field then some .a
  else if r.b.isField objectType field then some .b
  else none

/-- Whether an end stands on the object type. -/
def involves (r : Relation) (objectType : String) : Bool :=
  r.a.objectType == objectType || r.b.objectType == objectType

/-- Whether two relations have the same two ends, in either order. -/
def samePair (r s : Relation) : Bool :=
  (r.a = s.a && r.b = s.b) || (r.a = s.b && r.b = s.a)

/-- The cardinality as seen from a side. -/
def kindFor (r : Relation) (side : Side) : RelationKind :=
  match r.cardinality with
  | .oneToOne => .oneToOne
  | .oneToMany owner => if owner = side then .manyToOne else .oneToMany
  | .manyToMany => .manyToMany

/-- Whether the table of the side's type holds a reference column for the side's field. -/
def ownsReference (r : Relation) (side : Side) : Bool :=
  match r.cardinality with
  | .oneToOne => side = .a || !r.isSelfReferencing
  | .oneToMany owner => owner = side
  | .manyToMany => false

/-- The reference column for the side's field. -/
def referenceColumn (r : Relation) (side : Side) : String :=
  DataModel.referenceColumn (r.onSide side).field

/-- The junction table of a many-to-many relation. -/
def junctionTable (r : Relation) : String := r.name

/-- The junction column that holds the key of the side's rows. Field names tell the two apart where
type names cannot. -/
def junctionColumn (r : Relation) (side : Side) : String :=
  if r.isSelfReferencing then DataModel.referenceColumn (r.onSide side).field
  else DataModel.referenceColumn (r.onSide side).objectType

end Relation

end DataModel
