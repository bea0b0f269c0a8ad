import DataModel.Document.Error
import DataModel.Relation.Basic

/-!
# Resolution of relations

`RelationSet.resolve` pairs every relation field of a document with its counterpart. A candidate is
another relation field on the target type that refers back, with the same hint if the field has
one; there has to be exactly one. Relations are collected in the order of the fields, each pair
once, under names that are unique, and no field belongs to two of them. Afterwards every type that
takes part needs a primary key, and no reference column may take the name of another column.
-/

namespace DataModel

/-- The relations of a document in the order of their first fields. -/
structure RelationSet where
  relations : List Relation
  deriving DecidableEq

namespace RelationSet

/-- The relation with this name. -/
def get? (set : RelationSet) (name : String) : Option Relation :=
  set.relations.find? (·.name == name)

/-- The relations with an end on the object type. -/
def forObjectType (set : RelationSet) (objectType : String) : List Relation :=
  set.relations.filter (·.involves objectType)

/-- The relation that a field belongs to, and the side it is on. -/
def forField? (set : RelationSet) (objectType field : String) : Option (Relation × Side) :=
  set.relations.findSome? fun r => (r.sideOf? objectType field).map (r, ·)

/-- The fields of the target type that `f` may pair with: relation fields other than `f` itself that
refer to the source type, with the hint of `f` if it has one. -/
def candidates (source : ObjectType) (f : Field) (target : ObjectType) : List Field :=
  target.relationFields.filter fun c =>
    c.typeName == source.name &&
    !(target.name == source.name && c.name == f.name) &&
    (f.hint.isNone || c.hint == f.hint)

/-- The only candidate of a field. -/
def counterpart (source : ObjectType) (f : Field) (target : ObjectType) :
    Except ModelError Field :=
  match candidates source f target with
  | [c] => .ok c
  | [] => .error (.missingRelationField source.name target.name f.name)
  | cs => .error (.ambiguousRelation source.name target.name f.name (cs.map (·.name)))

/-- The relation that a field forms with its counterpart. -/
def pairOf (d : Document) (t : ObjectType) (f : Field) : Except ModelError Relation :=
  match d.objectType? f.typeName with
  | none => .error (.unknownType t.name f.name f.typeName)
  | some target => do
    let c ← counterpart t f target
    return ⟨RelationEnd.of t f, RelationEnd.of target c, f.hint⟩

/-- The two ends of a relation as messages show them. -/
def displayPair (r : Relation) : String := r.a.display ++ " <-> " ++ r.b.display

/-- Adds a relation. The same pair met again from its other side changes nothing; another pair of
the same name, or one that shares a field with a relation of the set, is refused. -/
def insert (set : RelationSet) (r : Relation) : Except ModelError RelationSet :=
  match set.get? r.name with
  | some existing =>
    if existing.samePair r then .ok set
    else .error (.relationNameCollision r.name (displayPair existing) (displayPair r))
  | none =>
    match Side.both.findSome? fun side =>
      (set.forField? (r.onSide side).objectType (r.onSide side).field).map (side, ·.1) with
    | some (side, existing) =>
      .error (.fieldAlreadyPaired (r.onSide side).objectType (r.onSide side).field existing.name
        r.name)
    | none => .ok ⟨set.relations ++ [r]⟩

/-- The hints of all relation fields, repetitions included. -/
def hints (d : Document) : List String :=
  d.relationFields.filterMap (·.2.hint)

/-- Checks that every hint stands on exactly two fields. -/
def checkHints (d : Document) : Except ModelError Unit :=
  match (hints d).find? fun h => (hints d).count h ≠ 2 with
  | some h => .error (.relationNameUses h ((hints d).count h))
  | none => .ok ()

/-- Checks that the types on both ends of every relation have primary keys. -/
def checkPrimaryKeys (set : RelationSet) (d : Document) : Except ModelError Unit :=
  set.relations.forM fun r =>
    Side.both.forM fun side =>
      if (d.primaryKeyOf? (r.onSide side).objectType).isSome then .ok ()
      else .error (.missingPrimaryKey (r.onSide side).objectType)

/-- The reference column of a field, if it owns one. -/
def ownedColumn? (set : RelationSet) (objectType field : String) : Option String :=
  match set.forField? objectType field with
  | some (r, side) => if r.ownsReference side then some (r.referenceColumn side) else none
  | none => none

/-- Checks that the reference columns of the fields differ from each other and from the columns
that are already held. -/
def checkColumns (set : RelationSet) (objectType : String) (held : List (String × ColumnHolder)) :
    List Field → Except ModelError Unit
  | [] => .ok ()
  | f :: rest =>
    match set.ownedColumn? objectType f.name with
    | none => set.checkColumns objectType held rest
    | some column =>
      match held.lookup column with
      | some existing => .error (.referenceColumnCollision objectType f.name column existing)
      | none => set.checkColumns objectType ((column, .reference f.name) :: held) rest

/-- Checks the reference columns of every object type. -/
def checkReferenceColumns (set : RelationSet) (d : Document) : Except ModelError Unit :=
  d.objectTypes.forM fun t =>
    let held := (t.fields.filter (!·.isRelation)).map fun f => (f.name, ColumnHolder.field f.name)
    set.checkColumns t.name held t.relationFields

/-- Adds the relation of one field. -/
def step (d : Document) (set : RelationSet) (entry : ObjectType × Field) :
    Except ModelError RelationSet := do
  let r ← pairOf d entry.1 entry.2
  set.insert r

/-- The relations of a document. -/
def resolve (d : Document) : Except ModelError RelationSet := do
  checkHints d
  let set ← d.relationFields.foldlM (step d) ⟨[]⟩
  set.checkPrimaryKeys d
  set.checkReferenceColumns d
  return set

end RelationSet

end DataModel
