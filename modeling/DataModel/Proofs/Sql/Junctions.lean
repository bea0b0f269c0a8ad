import DataModel.Proofs.Sql.References
import DataModel.Proofs.Text.SnakeCase

/-!
# The columns of a junction table

A junction table has a key column for each side of its relation. The columns are named after the
types of the sides, or after the fields where both sides stand on one type, so they come from
different names. Snake case stands between the names and the columns: where two names have the same
words, as `myFriends` and `my_friends` have, the columns are one. The check of the reference columns
does not see them, since no side of a many-to-many relation owns a reference column.

## Main results

* `Relation.junctionColumn_eq_iff`: when the two columns have one name.
* `holdsKeys_of_junctionOf`: the columns and foreign keys of a junction table.
* `junctionColumns_nodup_iff`: **every many-to-many relation has a junction table with a key column
  for each side, and their names differ exactly when the names of the sides have different words.**
-/

namespace DataModel

namespace Relation

/-- What the junction column of a side is named after: the field of the side where both sides stand
on one type, its type elsewhere. -/
def sideLabel (r : Relation) (side : Side) : String :=
  if r.isSelfReferencing then (r.onSide side).field else (r.onSide side).objectType

/-- The junction column of a side is the reference column of its label. -/
theorem junctionColumn_eq (r : Relation) (side : Side) :
    r.junctionColumn side = DataModel.referenceColumn (r.sideLabel side) := by
  unfold junctionColumn sideLabel
  split <;> rfl

/-- Junction columns have one name exactly when what they are named after has the same words. -/
theorem junctionColumn_eq_iff {r s : Relation} {side side' : Side} :
    r.junctionColumn side = s.junctionColumn side' ↔
      Text.SameWords (r.sideLabel side) (s.sideLabel side') := by
  rw [junctionColumn_eq, junctionColumn_eq, referenceColumn_eq_iff]

end Relation

namespace Sql

/-- The statement creates a junction table of the relation that holds the keys of both sides: it has
one key column for each side and no other, and for each a foreign key to the primary key of the
table of the side's type. -/
structure HoldsKeys (d : Document) (r : Relation) (s : Statement) : Prop where
  creates : ∃ lines, s = .createTable r.junctionTable lines
  columns : s.columns = Side.both.map fun side => ⟨r.junctionColumn side, .value .key true none⟩
  references : ∀ side, ∃ target key, d.objectType? (r.onSide side).objectType = some target ∧
    target.primaryKey? = some key ∧ s.HoldsReference r.junctionTable (r.junctionColumn side)
      (tableName target.name) key.name

variable {d : Document} {set : RelationSet}

/-- **The junction table** of a relation holds the keys of both sides. -/
theorem holdsKeys_of_junctionOf (h : set.Resolves d) {r : Relation} (hr : r ∈ set.relations)
    {s : Statement} (hs : junctionOf d r = .ok s) : HoldsKeys d r s := by
  obtain ⟨p, hp, ha⟩ := h.collected.exists_place hr .a
  obtain ⟨q, hq, hb⟩ := h.collected.exists_place hr .b
  obtain ⟨pkey, hpkey, -⟩ := h.exists_key hp
  obtain ⟨qkey, hqkey, -⟩ := h.exists_key hq
  have htype : ∀ {p : Place}, p ∈ d.relationFields →
      d.objectType? p.toEnd.objectType = some p.1 := fun hp =>
    h.valid.objectType?_eq_some_iff.mpr ⟨(Document.mem_relationFields.mp hp).1, rfl⟩
  obtain rfl := Except.ok.inj
    (hs.symm.trans (junctionOf_eq_ok h ha hb hp hq hpkey hqkey))
  refine ⟨⟨_, rfl⟩, rfl, Side.forall_iff.mpr ⟨⟨p.1, pkey, ?_, hpkey, ?_⟩, q.1, qkey, ?_, hqkey, ?_⟩⟩
  · rw [ha, htype hp]
  · exact ⟨_, List.mem_cons_self⟩
  · rw [hb, htype hq]
  · exact ⟨_, List.mem_cons_of_mem _ List.mem_cons_self⟩

/-- **A many-to-many relation** of a resolved document has a junction table in the script, with a
key column for each side. The two columns have different names exactly when what they are named
after has different words. -/
theorem junctionColumns_nodup_iff {objectTypes : List ObjectType} {enumTypes : List EnumType}
    (hd : Document.validated objectTypes enumTypes = .ok d) (h : RelationSet.resolve d = .ok set)
    {r : Relation} (hr : r ∈ set.relations) (hcard : r.cardinality = .manyToMany) :
    ∃ script s, statements d set = .ok script ∧ junctionOf d r = .ok s ∧ s ∈ script ∧
      HoldsKeys d r s ∧ ((s.columns.map (·.name)).Nodup ↔
        ¬ Text.SameWords (r.sideLabel .a) (r.sideLabel .b)) := by
  have hset := RelationSet.resolves_of_resolve hd h
  obtain ⟨script, hscript⟩ := exists_statements hset
  obtain ⟨ss, hss⟩ := exists_relationStatements hset hr
  rcases relationStatements_cases hss with ⟨-, s, hs, -⟩ | ⟨hnot, -⟩
  · have hkeys := holdsKeys_of_junctionOf hset hr hs
    refine ⟨script, s, hscript, hs, mem_script_of_manyToMany hscript hr hcard hs, hkeys, ?_⟩
    rw [← Relation.junctionColumn_eq_iff, hkeys.columns]
    simp [Side.both]
  · exact absurd hcard hnot

/-- The junction table of books and tags in the library has two columns. -/
theorem library_junctionColumns_nodup :
    ∃ r ∈ RelationSet.library.relations, r.name = "Tagging" ∧
      ∃ s, junctionOf .library r = .ok s ∧ HoldsKeys .library r s ∧
        (s.columns.map (·.name)).Nodup := by
  have hd : Document.validated Document.library.objectTypes [] = .ok .library := by decide +kernel
  have h : RelationSet.resolve .library = .ok .library := by decide +kernel
  refine ⟨RelationSet.library.relations[2], by decide, by decide, ?_⟩
  obtain ⟨-, s, -, hs, -, hkeys, hiff⟩ :=
    junctionColumns_nodup_iff hd h (r := RelationSet.library.relations[2]) (by decide) (by decide)
  exact ⟨s, hs, hkeys, hiff.mpr (by decide +kernel)⟩

end Sql

/-- A circle of friends, in which the two sides of a friendship differ by their spelling alone. -/
def Document.friends : Document where
  objectTypes :=
    [ .of "User"
        [ { name := "id", typeName := "ID", kind := .scalar .id, required := true },
          { name := "myFriends", typeName := "User", kind := .relation, list := true },
          { name := "my_friends", typeName := "User", kind := .relation, list := true } ] {} ]
  enumTypes := []

/-- The one relation of the circle of friends. -/
def RelationSet.friends : RelationSet where
  relations := [⟨⟨"User", "myFriends", true, false⟩, ⟨"User", "my_friends", true, false⟩, none⟩]

/-- The junction table of friends has two columns of one name, although the document is accepted and
resolved. -/
theorem Sql.friends_share_column :
    Document.validated Document.friends.objectTypes [] = .ok .friends ∧
      RelationSet.resolve .friends = .ok .friends ∧
      ∃ r ∈ RelationSet.friends.relations, r.cardinality = .manyToMany ∧
        ∃ s, junctionOf .friends r = .ok s ∧
          s.columns.map (·.name) = ["my_friends_id", "my_friends_id"] := by
  refine ⟨by decide +kernel, by decide +kernel, RelationSet.friends.relations[0], by decide,
    by decide, ?_⟩
  exact ⟨_, rfl, by decide +kernel⟩

end DataModel
