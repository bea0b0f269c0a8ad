import DataModel.Relation.Resolution

/-!
# Relations indexed by name

A set of relations may keep an index beside its list: under the name of each relation the position
at which it stands. Names are then looked up through the index, while the look-ups by type and by
field remain walks over the list. The index grows with the list, at the one place where a relation
is added.
-/

namespace DataModel.RelationSet

/-- A set of relations with the position of each under its name, the latest entry first. -/
structure Indexed extends RelationSet where
  positions : List (String × Nat)
  deriving DecidableEq

namespace Indexed

/-- The set without relations. -/
def empty : Indexed := ⟨⟨[]⟩, []⟩

/-- The relation at the position that is kept under this name. -/
def get? (set : Indexed) (name : String) : Option Relation :=
  (set.positions.lookup name).bind (set.relations[·]?)

/-- Puts a relation last in the list and its position under its name. -/
def push (set : Indexed) (r : Relation) : Indexed :=
  ⟨⟨set.relations ++ [r]⟩, (r.name, set.relations.length) :: set.positions⟩

/-- Adds a relation as `RelationSet.insert` does, with its name looked up through the index. -/
def insert (set : Indexed) (r : Relation) : Except ModelError Indexed :=
  match set.get? r.name with
  | some existing =>
    if existing.samePair r then .ok set
    else .error (.relationNameCollision r.name (displayPair existing) (displayPair r))
  | none =>
    match Side.both.findSome? fun side =>
      (set.forField? (r.onSide side).objectType (r.onSide side).field).map (side, ·.1) with
    | some (side, existing) =>
      .error (.fieldAlreadyPaired (r.onSide side).objectType (r.onSide side).field existing.name
        r.name)
    | none => .ok (set.push r)

/-- Adds the relation of one field. -/
def step (d : Document) (set : Indexed) (entry : ObjectType × Field) :
    Except ModelError Indexed := do
  let r ← pairOf d entry.1 entry.2
  set.insert r

/-- The relations of a document, with their index. -/
def resolve (d : Document) : Except ModelError Indexed := do
  checkHints d
  let set ← d.relationFields.foldlM (step d) empty
  set.checkPrimaryKeys d
  set.checkReferenceColumns d
  return set

end Indexed

end DataModel.RelationSet
