import DataModel.Proofs.Relation.TypeOrder
import DataModel.Proofs.Sql.References

/-!
# Scripts of the same types in another order

The order of the object types decides in which order a script creates tables, walks over relations
and meets the two ends of a relation between different types. It does not decide what a statement
says: a table is made of the fields of its type, a foreign key belongs to a field, and a junction
table names its columns after the types on its sides. All that an exchange of sides can do is to
exchange the lines of a junction table.

## Main results

* `tableOf_of_sameTypes`: the table of a type is the same in either order.
* `alterationAt?_of_sameTypes`: so is the foreign key of a relation field.
* `exists_junctionOf_swap`: the junction table of a relation with its sides exchanged.
* `exists_scripts_reordered`: **scripts of the same types are equal up to order and the sides of
  junction tables.**
-/

open scoped List

namespace DataModel.Sql

/-- The statements are equal, or they create a junction table of two columns and their two foreign
keys, and the lines of the two sides are exchanged. -/
inductive SameUpToSides : Statement → Statement → Prop
  | same (s : Statement) : SameUpToSides s s
  | exchanged (table : String) (a b : Column) (k l : ForeignKey) :
      SameUpToSides (.createTable table [.column a, .column b, .foreignKey k, .foreignKey l])
        (.createTable table [.column b, .column a, .foreignKey l, .foreignKey k])

/-- The scripts that begin with the tables of the object types and go on with other statements are
equal up to order.

* Every object type has one and the same table in both, and these are all tables of types.
* The alterations are the same in some order.
* The other statements, which create the junction tables, are the same in some order and up to the
  sides of each. -/
structure SameUpToOrder (d d' : Document) (set set' : RelationSet)
    (tables others tables' others' : List Statement) : Prop where
  tableOf_eq : List.Forall₂ (fun t s => tableOf d set t = .ok s ∧ tableOf d' set' t = .ok s)
    d.objectTypes tables
  tables_perm : tables' ~ tables
  alterations : (tables' ++ others').filter (·.isAlteration) ~
    (tables ++ others).filter (·.isAlteration)
  junctions : ∃ l, others'.filter (!·.isAlteration) ~ l ∧
    List.Forall₂ SameUpToSides (others.filter (!·.isAlteration)) l

variable {d d' : Document} {set set' : RelationSet}

/-! ### With the sides exchanged -/

/-- The foreign key of a side does not depend on which side it is. -/
theorem foreignKeyOf_swap (d : Document) (r : Relation) (side : Side) :
    foreignKeyOf d r.swap side = foreignKeyOf d r side.opposite := by
  rw [foreignKeyOf, foreignKeyOf, Relation.onSide_swap, Relation.onSide_swap,
    Relation.referenceColumn_swap]

/-- **The junction table** of a relation with its sides exchanged has its lines exchanged. -/
theorem exists_junctionOf_swap {r : Relation} {s : Statement} (h : junctionOf d r = .ok s) :
    ∃ s', junctionOf d r.swap = .ok s' ∧ SameUpToSides s s' := by
  obtain ⟨keys, hkeys, hs⟩ := Except.bind_eq_ok_iff.mp h
  obtain rfl := Except.pure_eq_ok_iff.mp hs
  obtain ⟨k, _, hk, hrest, rfl⟩ := List.forall₂_cons_left_iff.mp (List.mapM_eq_ok_iff.mp hkeys)
  obtain ⟨l, _, hl, hnil, rfl⟩ := List.forall₂_cons_left_iff.mp hrest
  obtain rfl := List.forall₂_nil_left_iff.mp hnil
  have htable : r.swap.junctionTable = r.junctionTable := r.name_swap
  have hside : ∀ side, foreignKeyTo d r.swap.junctionTable (r.swap.junctionColumn side)
      (r.swap.onSide side).objectType =
      foreignKeyTo d r.junctionTable (r.junctionColumn side.opposite)
        (r.onSide side.opposite).objectType := fun side => by
    rw [htable, Relation.junctionColumn_swap, Relation.onSide_swap]
  have hswap : Side.both.mapM (fun side => foreignKeyTo d r.swap.junctionTable
      (r.swap.junctionColumn side) (r.swap.onSide side).objectType) = .ok [l, k] :=
    List.mapM_eq_ok_iff.mpr (.cons ((hside .a).trans hl) (.cons ((hside .b).trans hk) .nil))
  have hcolumns : Side.both.map (fun side => TableLine.column
      ⟨r.swap.junctionColumn side, .value .key true none⟩) =
      [.column ⟨r.junctionColumn .b, .value .key true none⟩,
        .column ⟨r.junctionColumn .a, .value .key true none⟩] := by
    simp only [Side.both, List.map_cons, List.map_nil, Relation.junctionColumn_swap, Side.opposite]
  refine ⟨_, Except.bind_eq_ok_iff.mpr ⟨_, hswap, rfl⟩, ?_⟩
  rw [hcolumns, htable]
  exact .exchanged r.junctionTable _ _ k l

/-- Tables of types in another order stand in another order. -/
theorem tables_perm (h : d.SameTypes d') {tables tables' : List Statement}
    (htables : List.Forall₂ (fun t s => tableOf d' set' t = .ok s) d.objectTypes tables)
    (htables' : d'.objectTypes.mapM (tableOf d' set') = .ok tables') : tables' ~ tables := by
  obtain ⟨l, hl, hperm⟩ := List.perm_comp_forall₂ h.objectTypes htables
  have heq : tables' = l := List.right_unique_forall₂'
    (fun _ _ _ hs hs' => Except.ok.inj (hs.symm.trans hs')) (List.mapM_eq_ok_iff.mp htables') hl
  exact heq ▸ hperm

section Reordered

variable (h : d.SameTypes d') (hset : set.Resolves d) (hset' : set'.Resolves d')
include h hset

/-! ### Tables of object types -/

/-- What a foreign key refers to does not depend on the order of the types. -/
theorem foreignKeyTo_of_sameTypes (table column targetType : String) :
    foreignKeyTo d' table column targetType = foreignKeyTo d table column targetType := by
  rw [foreignKeyTo, foreignKeyTo, h.objectType?_eq hset.valid.typeNames_nodup]

/-- The foreign key of a side does not depend on the order of the types. -/
theorem foreignKeyOf_of_sameTypes (r : Relation) (side : Side) :
    foreignKeyOf d' r side = foreignKeyOf d r side := by
  simp only [foreignKeyOf, foreignKeyTo_of_sameTypes h hset]

/-- The junction table of a relation does not depend on the order of the types. -/
theorem junctionOf_of_sameTypes (r : Relation) : junctionOf d' r = junctionOf d r := by
  simp only [junctionOf, foreignKeyTo_of_sameTypes h hset]

include hset'

/-- The reference column of a field is the same in either order. -/
theorem referenceColumn?_of_sameTypes {t : ObjectType} {f : Field} {r : Relation} {side : Side}
    (hfind : set.forField? t.name f.name = some (r, side)) :
    referenceColumn? set' t f = referenceColumn? set t f := by
  rw [referenceColumn?_eq hfind]
  rcases RelationSet.forField?_of_sameTypes h hset.valid hset'.valid hset.collected
    hset'.collected hfind with hfind' | ⟨hfind', hself⟩
  · rw [referenceColumn?_eq hfind']
  · rw [referenceColumn?_eq hfind', Relation.ownsReference_swap_of_two_types hself,
      Relation.referenceColumn_swap, Side.opposite_opposite]

/-- **The table of a type** is the same in either order. -/
theorem tableOf_of_sameTypes {t : ObjectType} (ht : t ∈ d.objectTypes) :
    tableOf d' set' t = tableOf d set t := by
  obtain ⟨s, hs⟩ := exists_tableOf hset ht
  have henums : enumColumn d' = enumColumn d := by
    funext f
    rw [enumColumn, enumColumn, h.enumType?_eq]
  have hreferences : t.relationFields.mapM (referenceColumn? set' t) =
      t.relationFields.mapM (referenceColumn? set t) := by
    refine List.mapM_congr_of_mem fun f hf => ?_
    obtain ⟨r, side, -, hfind, -⟩ :=
      hset.exists_relation (p := (t, f)) (Document.mem_relationFields.mpr ⟨ht, hf⟩)
    exact referenceColumn?_of_sameTypes h hset hset' hfind
  rw [tableOf, tableOf, henums, hreferences]

/-! ### Statements of relations -/

/-- **The foreign key of a relation field** is the same in either order. -/
theorem alterationAt?_of_sameTypes {p : Place} (hp : p ∈ d.relationFields) :
    alterationAt? d' set' p.toEnd = alterationAt? d set p.toEnd := by
  obtain ⟨r, side, -, hfind, -⟩ := hset.exists_relation hp
  have hfind : set.forField? p.toEnd.objectType p.toEnd.field = some (r, side) := hfind
  simp only [alterationAt?, hfind]
  rcases RelationSet.forField?_of_sameTypes h hset.valid hset'.valid hset.collected
    hset'.collected hfind with hfind' | ⟨hfind', hself⟩
  · simp only [hfind', foreignKeyOf_of_sameTypes h hset]
  · simp only [hfind', foreignKeyOf_of_sameTypes h hset, foreignKeyOf_swap, Side.opposite_opposite,
      Relation.ownsReference_swap_of_two_types hself]

/-- **The junction tables** of the relations, if they have one, are the same up to their sides. -/
theorem junctionAt?_oriented {r : Relation} (hr : r ∈ set.relations) :
    Option.Rel SameUpToSides (junctionAt? d r) (junctionAt? d' (set'.oriented r)) := by
  obtain ⟨ss, hss⟩ := exists_relationStatements hset hr
  rcases relationStatements_cases hss with ⟨hcard, s, hs, -⟩ | ⟨hcard, -⟩
  · rcases RelationSet.oriented_cases h hset.valid hset'.valid hset.collected hset'.collected hr
      with heq | ⟨heq, -⟩
    · simp only [heq, junctionAt?, junctionOf_of_sameTypes h hset, hcard, hs, if_true]
      exact .some (.same s)
    · obtain ⟨s', hs', hsides⟩ := exists_junctionOf_swap hs
      simp only [heq, junctionAt?, junctionOf_of_sameTypes h hset,
        Relation.cardinality_swap_eq_manyToMany_iff, hcard, hs, hs', if_true]
      exact .some hsides
  · rcases RelationSet.oriented_cases h hset.valid hset'.valid hset.collected hset'.collected hr
      with heq | ⟨heq, -⟩
    · simp only [heq, junctionAt?, if_neg hcard]
      exact .none
    · simp only [heq, junctionAt?, Relation.cardinality_swap_eq_manyToMany_iff, if_neg hcard]
      exact .none

/-! ### The whole script -/

/-- The alterations of all relations are those of the relation fields, which are the same. -/
theorem alterations_perm {others others' : List (List Statement)}
    (hothers : set.relations.mapM (relationStatements d) = .ok others)
    (hothers' : set'.relations.mapM (relationStatements d') = .ok others') :
    others'.flatten.filter (·.isAlteration) ~ others.flatten.filter (·.isAlteration) :=
  calc others'.flatten.filter (·.isAlteration)
      ~ d'.relationFields.filterMap fun p : Place => alterationAt? d' set' p.toEnd :=
        filter_isAlteration_perm hset' hothers'
    _ ~ d.relationFields.filterMap fun p : Place => alterationAt? d' set' p.toEnd :=
        h.relationFields_perm.filterMap _
    _ = d.relationFields.filterMap fun p : Place => alterationAt? d set p.toEnd :=
        List.filterMap_congr fun _ hp => alterationAt?_of_sameTypes h hset hset' hp
    _ ~ others.flatten.filter (·.isAlteration) := (filter_isAlteration_perm hset hothers).symm

/-- The junction tables of all relations stand in another order and are the same up to their
sides. -/
theorem junctions_perm : ∃ l, set'.relations.filterMap (junctionAt? d') ~ l ∧
    List.Forall₂ SameUpToSides (set.relations.filterMap (junctionAt? d)) l := by
  have hperm := RelationSet.map_oriented_perm h.reorders hset.valid hset'.valid hset.collected
    hset'.collected
  refine ⟨(set.relations.map set'.oriented).filterMap (junctionAt? d'), hperm.symm.filterMap _, ?_⟩
  have hsides : List.Forall₂ (fun r r' => r ∈ set.relations ∧ r' = set'.oriented r)
      set.relations (set.relations.map set'.oriented) :=
    List.forall₂_map_right_iff.mpr (List.forall₂_same.mpr fun _ hr => ⟨hr, rfl⟩)
  refine List.rel_filterMap (fun r r' ⟨hr, heq⟩ => ?_) hsides
  exact heq ▸ junctionAt?_oriented h hset hset' hr

/-- **Scripts of the same types** exist for both orders and are equal up to order and the sides of
junction tables. -/
theorem exists_scripts_reordered : ∃ tables others tables' others',
    statements d set = .ok (tables ++ others) ∧ statements d' set' = .ok (tables' ++ others') ∧
      SameUpToOrder d d' set set' tables others tables' others' := by
  obtain ⟨script, hscript⟩ := exists_statements hset
  obtain ⟨script', hscript'⟩ := exists_statements hset'
  obtain ⟨tables, others, htables, hothers, rfl⟩ := statements_eq_ok_iff.mp hscript
  obtain ⟨tables', others', htables', hothers', rfl⟩ := statements_eq_ok_iff.mp hscript'
  have hsteps : List.Forall₂ (fun t s => t ∈ d.objectTypes ∧ tableOf d set t = .ok s)
      d.objectTypes tables :=
    (List.forall₂_and_left _ _).mpr ⟨fun _ ht => ht, List.mapM_eq_ok_iff.mp htables⟩
  have hsame : List.Forall₂ (fun t s => tableOf d set t = .ok s ∧ tableOf d' set' t = .ok s)
      d.objectTypes tables :=
    hsteps.imp fun _ _ ⟨ht, hs⟩ => ⟨hs, (tableOf_of_sameTypes h hset hset' ht).trans hs⟩
  have htables_perm := tables_perm h (hsame.imp fun _ _ hs => hs.2) htables'
  refine ⟨tables, others.flatten, tables', others'.flatten, hscript, hscript',
    { tableOf_eq := hsame
      tables_perm := htables_perm
      alterations := ?_
      junctions := ?_ }⟩
  · rw [List.filter_append, List.filter_append]
    exact (htables_perm.filter _).append (alterations_perm h hset hset' hothers hothers')
  · rw [filter_not_isAlteration_flatten_eq hothers, filter_not_isAlteration_flatten_eq hothers']
    exact junctions_perm h hset hset'

end Reordered

end DataModel.Sql
