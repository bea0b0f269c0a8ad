import DataModel.Proofs.Sql.Script

/-!
# References between tables

A script runs statement by statement, so what a foreign key refers to has to stand before. Reference
columns are found by walking over types and fields, foreign keys by walking over relations and
sides. Both walks meet the same fields, each once, because the ends of the relations are the
relation fields in another order (`RelationSet.Collected.ends_perm`): what one end contributes to
the script (`alterationAt?`) can be collected along either walk.

## Main results

* `filter_isAlteration_perm`: the alterations of the script are those of the relation fields.
* `forall₂_isJunctionOf`: the other statements of the relations are their junction tables.
* `createsKeyed_of_tableOf`: the table of a type creates its primary key and no other.
* `script_isClosed`: **the script of a resolved document is referentially closed.**
-/

open scoped List

namespace List

variable {α β : Type}

/-- The entries that have a value, and their values. -/
theorem forall₂_filter_filterMap {R : α → β → Prop} {p : α → Bool} {g : α → Option β} {l : List α}
    (hsome : ∀ a ∈ l, p a = true → ∃ b, g a = some b ∧ R a b)
    (hnone : ∀ a ∈ l, p a = false → g a = none) : Forall₂ R (l.filter p) (l.filterMap g) := by
  induction l with
  | nil => exact .nil
  | cons a l ih =>
      obtain ⟨hsome, hsome'⟩ := forall_mem_cons.mp hsome
      obtain ⟨hnone, hnone'⟩ := forall_mem_cons.mp hnone
      have ih := ih hsome' hnone'
      cases hp : p a with
      | false => rwa [filter_cons, hp, if_neg Bool.false_ne_true, filterMap_cons, hnone hp]
      | true =>
          obtain ⟨b, hb, hR⟩ := hsome hp
          rw [filter_cons, hp, if_pos rfl, filterMap_cons, hb]
          exact .cons hR ih

end List

namespace DataModel.Sql

/-! ### What makes a script closed -/

namespace Statement

/-- Whether the statement alters a table that stands. -/
def isAlteration : Statement → Bool
  | .createTable _ _ => false
  | .addForeignKey _ _ => true

/-- The statement creates a table whose primary key is the column, and no other one. -/
def CreatesKeyed (s : Statement) (table column : String) : Prop :=
  (∃ lines, s = .createTable table lines) ∧ ⟨column, .primaryKey⟩ ∈ s.columns ∧
    ∀ c ∈ s.columns, c.role = .primaryKey → c.name = column

end Statement

/-- Whether the table of its type has a reference column for the relation field. -/
def hasReferenceColumn (set : RelationSet) (p : Place) : Bool :=
  match referenceColumn? set p.1 p.2 with
  | .ok (some _) => true
  | _ => false

/-- The statement adds the foreign key of a relation field: it is on the reference column that the
table of the field's type declares for the field, and refers to the primary key of the table of the
field's declared type. -/
def IsForeignKeyOf (d : Document) (set : RelationSet) (p : Place) (s : Statement) : Prop :=
  ∃ column target key, referenceColumn? set p.1 p.2 = .ok (some column) ∧
    (∃ table, tableOf d set p.1 = .ok table ∧ column ∈ table.columns) ∧
    d.objectType? p.2.typeName = some target ∧ target.primaryKey? = some key ∧
    s.AddsReference (tableName p.1.name) column.name (tableName target.name) key.name

/-- The statement creates the junction table of a relation: it declares a column for each side, and
has two foreign keys, which are on these columns. -/
def IsJunctionOf (r : Relation) (s : Statement) : Prop :=
  (∃ lines, s = .createTable r.junctionTable lines) ∧
    s.columns.map (·.name) = Side.both.map r.junctionColumn ∧
    s.foreignKeys.map (·.2.column) = Side.both.map r.junctionColumn

/-- A script that begins with `tables` and goes on with `others` is referentially closed.

* The tables are those of the object types, in order.
* The alterations are, in some order, one for each relation field that has a reference column.
* The others that are no alterations are one junction table for each many-to-many relation.
* What a foreign key refers to is a table of an earlier statement and its primary key. -/
structure IsClosed (d : Document) (set : RelationSet) (tables others : List Statement) : Prop where
  tables_eq : List.Forall₂ (fun t s => tableOf d set t = .ok s ∧
    ∃ lines, s = .createTable (tableName t.name) lines) d.objectTypes tables
  alterations : ∃ l, (tables ++ others).filter (·.isAlteration) ~ l ∧
    List.Forall₂ (IsForeignKeyOf d set) (d.relationFields.filter (hasReferenceColumn set)) l
  junctions : List.Forall₂ IsJunctionOf (set.relations.filter (·.cardinality = .manyToMany))
    (others.filter (!·.isAlteration))
  references : ∀ earlier s later, tables ++ others = earlier ++ s :: later →
    ∀ k ∈ s.foreignKeys, ∃ c ∈ earlier, c.CreatesKeyed k.2.targetTable k.2.targetColumn

variable {d : Document} {set : RelationSet}

/-! ### Tables of object types -/

/-- The table of an object type has no foreign keys of its own. -/
theorem foreignKeys_of_tableOf {t : ObjectType} {s : Statement} (h : tableOf d set t = .ok s) :
    s.foreignKeys = [] := by
  simp only [tableOf, Except.bind_eq_ok_iff, Except.pure_eq_ok_iff] at h
  obtain ⟨scalars, -, enums, -, references, -, rfl⟩ := h
  simp [Statement.foreignKeys, uniqueLine, indexLine, auditColumns]

/-- A primary key among the columns of a table is the one of the type. -/
theorem primaryKey?_of_role {t : ObjectType} {s : Statement} (h : tableOf d set t = .ok s)
    {c : Column} (hc : c ∈ s.columns) (hrole : c.role = .primaryKey) :
    t.primaryKey?.map (·.name) = some c.name := by
  obtain ⟨scalars, enums, references, hscalars, henums, hreferences, -, hcolumns⟩ :=
    of_tableOf_eq_ok h
  have haudit : ∀ c ∈ auditColumns, c.role ≠ .primaryKey := by decide
  rw [hcolumns, List.mem_append, List.mem_append, List.mem_append] at hc
  rcases hc with ((hc | hc) | hc) | hc
  · obtain ⟨f, -, hf⟩ := List.exists_mem_of_mapM_eq_ok hscalars hc
    obtain ⟨hname, hprimary⟩ := of_scalarColumn_eq_ok hf
    rw [hname]
    exact hprimary.mp hrole
  · obtain ⟨f, -, hf⟩ := List.exists_mem_of_mapM_eq_ok henums hc
    exact absurd hrole (of_enumColumn_eq_ok hf).2
  · obtain ⟨_, hc, rfl⟩ := List.mem_filterMap.mp hc
    obtain ⟨f, -, hf⟩ := List.exists_mem_of_mapM_eq_ok hreferences hc
    obtain ⟨r, side, -, hreference⟩ := of_referenceColumn?_eq_ok hf
    split at hreference
    · rw [Option.some.inj hreference] at hrole
      exact absurd hrole nofun
    · exact absurd hreference nofun
  · exact absurd hrole (haudit c hc)

/-- **The table of a type** creates its primary key and no other. -/
theorem createsKeyed_of_tableOf {t : ObjectType} {s : Statement} (h : tableOf d set t = .ok s)
    {key : Field} (hkey : t.primaryKey? = some key) :
    s.CreatesKeyed (tableName t.name) key.name := by
  obtain ⟨scalars, enums, references, hscalars, -, -, hcreate, hcolumns⟩ := of_tableOf_eq_ok h
  have hkind : key.kind = .scalar .id := by
    simpa [Field.isId] using List.find?_some hkey
  have hid : key.scalar? = some .id := by
    simp [Field.scalar?, hkind]
  have hfield : key ∈ t.scalarFields :=
    List.mem_filter.mpr ⟨List.mem_of_find?_eq_some hkey, by simp [Field.isScalar, hid]⟩
  have hcolumn : scalarColumn t key = .ok ⟨key.name, .primaryKey⟩ := by
    simp [scalarColumn, hid, hkey]
  refine ⟨hcreate, ?_, fun c hc hrole => ?_⟩
  · rw [hcolumns]
    simp [List.mem_of_mapM_eq_ok hscalars hfield hcolumn]
  · have hname := primaryKey?_of_role h hc hrole
    rw [hkey] at hname
    exact (Option.some.inj hname).symm

/-! ### What a relation contributes -/

/-- The alteration that an end of a relation calls for, if its field owns a reference column. -/
def alterationAt? (d : Document) (set : RelationSet) (e : RelationEnd) : Option Statement :=
  match set.forField? e.objectType e.field with
  | some (r, side) => if r.ownsReference side then (foreignKeyOf d r side).toOption else none
  | none => none

/-- The junction table that a relation calls for, if it is many-to-many. -/
def junctionAt? (d : Document) (r : Relation) : Option Statement :=
  if r.cardinality = .manyToMany then (junctionOf d r).toOption else none

/-- A foreign key is added by an alteration. -/
theorem isAlteration_of_foreignKeyOf {r : Relation} {side : Side} {s : Statement}
    (h : foreignKeyOf d r side = .ok s) : s.isAlteration = true := by
  obtain ⟨key, -, hs⟩ := Except.bind_eq_ok_iff.mp h
  rw [← Except.pure_eq_ok_iff.mp hs]
  rfl

/-- A junction table is no alteration. -/
theorem isAlteration_of_junctionOf {r : Relation} {s : Statement} (h : junctionOf d r = .ok s) :
    s.isAlteration = false := by
  obtain ⟨keys, -, hs⟩ := Except.bind_eq_ok_iff.mp h
  rw [← Except.pure_eq_ok_iff.mp hs]
  rfl

/-- The statements of a relation are its junction table, or the foreign keys of the sides that own a
reference column. -/
theorem relationStatements_cases {r : Relation} {ss : List Statement}
    (h : relationStatements d r = .ok ss) :
    (r.cardinality = .manyToMany ∧ ∃ s, junctionOf d r = .ok s ∧ ss = [s]) ∨
      (r.cardinality ≠ .manyToMany ∧
        (Side.both.filter r.ownsReference).mapM (foreignKeyOf d r) = .ok ss) := by
  unfold relationStatements at h
  cases hcard : r.cardinality with
  | manyToMany =>
      rw [hcard] at h
      obtain ⟨s, hs, hss⟩ := Except.bind_eq_ok_iff.mp h
      exact Or.inl ⟨rfl, s, hs, (Except.pure_eq_ok_iff.mp hss).symm⟩
  | oneToOne =>
      rw [hcard] at h
      exact Or.inr ⟨nofun, h⟩
  | oneToMany owner =>
      rw [hcard] at h
      exact Or.inr ⟨nofun, h⟩

/-- The alterations among the statements of a relation are those of its ends. -/
theorem filter_isAlteration_eq (hset : set.Resolves d) {r : Relation} (hr : r ∈ set.relations)
    {ss : List Statement} (h : relationStatements d r = .ok ss) :
    ss.filter (·.isAlteration) = r.ends.filterMap (alterationAt? d set) := by
  have hat : ∀ side, alterationAt? d set (r.onSide side) =
      if r.ownsReference side then (foreignKeyOf d r side).toOption else none := fun side => by
    have hfind : set.forField? (r.onSide side).objectType (r.onSide side).field = some (r, side) :=
      (hset.collected.forField?_eq_some_iff hset.valid).mpr ⟨hr, by simp [RelationEnd.isField]⟩
    simp only [alterationAt?, hfind]
  have hends : r.ends = Side.both.map r.onSide := rfl
  rw [hends, List.filterMap_map]
  rcases relationStatements_cases h with ⟨hcard, s, hs, rfl⟩ | ⟨-, hss⟩
  · have hnone : ∀ side, alterationAt? d set (r.onSide side) = none := fun side => by
      rw [hat, if_neg fun howns => RelationSet.cardinality_ne_manyToMany howns hcard]
    simp [isAlteration_of_junctionOf hs, hnone]
  · have hall : ss.filter (·.isAlteration) = ss.filterMap some := by
      rw [List.filterMap_some, List.filter_eq_self]
      intro s hs
      obtain ⟨side, -, hside⟩ := List.exists_mem_of_mapM_eq_ok hss hs
      exact isAlteration_of_foreignKeyOf hside
    have hkeys : ss.filterMap some =
        (Side.both.filter r.ownsReference).filterMap fun side => (foreignKeyOf d r side).toOption :=
      List.filterMap_eq_of_mapM_eq_ok hss fun side _ s hs => by simp [hs, Except.toOption]
    rw [hall, hkeys, List.filterMap_filter]
    exact List.filterMap_congr fun side _ => (hat side).symm

/-- The statements of a relation that are no alterations are its junction table, if it has one. -/
theorem filter_not_isAlteration_eq {r : Relation} {ss : List Statement}
    (h : relationStatements d r = .ok ss) :
    ss.filter (!·.isAlteration) = (junctionAt? d r).toList := by
  rcases relationStatements_cases h with ⟨hcard, s, hs, rfl⟩ | ⟨hcard, hss⟩
  · simp [junctionAt?, hcard, hs, isAlteration_of_junctionOf hs, Except.toOption]
  · rw [junctionAt?, if_neg hcard, Option.toList_none, List.filter_eq_nil_iff]
    intro s hs
    obtain ⟨side, -, hside⟩ := List.exists_mem_of_mapM_eq_ok hss hs
    simp [isAlteration_of_foreignKeyOf hside]

/-- The statements of all relations that are no alterations are their junction tables. -/
theorem filter_not_isAlteration_flatten_eq {others : List (List Statement)}
    (h : set.relations.mapM (relationStatements d) = .ok others) :
    others.flatten.filter (!·.isAlteration) = set.relations.filterMap (junctionAt? d) := by
  have hrelations : others.map (·.filter (!·.isAlteration)) =
      set.relations.map fun r => (junctionAt? d r).toList :=
    List.map_eq_of_mapM_eq_ok h fun r _ ss hss => filter_not_isAlteration_eq hss
  rw [List.filter_flatten, hrelations, ← List.flatMap_def, ← List.filterMap_eq_flatMap_toList]

/-! ### Along relations and along fields -/

/-- **The alterations** of the relations are those of the relation fields, in another order. -/
theorem filter_isAlteration_perm (hset : set.Resolves d) {others : List (List Statement)}
    (h : set.relations.mapM (relationStatements d) = .ok others) :
    others.flatten.filter (·.isAlteration) ~
      d.relationFields.filterMap fun p : Place => alterationAt? d set p.toEnd := by
  have hrelations : others.map (·.filter (·.isAlteration)) =
      set.relations.map fun r => r.ends.filterMap (alterationAt? d set) :=
    List.map_eq_of_mapM_eq_ok h fun r hr ss hss => filter_isAlteration_eq hset hr hss
  calc others.flatten.filter (·.isAlteration)
      = (set.relations.flatMap (·.ends)).filterMap (alterationAt? d set) := by
        rw [List.filter_flatten, hrelations, List.filterMap_flatMap, List.flatMap_def]
    _ ~ (d.relationFields.map Place.toEnd).filterMap (alterationAt? d set) :=
        (hset.collected.ends_perm hset.valid).filterMap _
    _ = d.relationFields.filterMap fun p : Place => alterationAt? d set p.toEnd :=
        List.filterMap_map

/-- A relation field has a reference column when its side owns one. -/
theorem hasReferenceColumn_eq {p : Place} {r : Relation} {side : Side}
    (hfind : set.forField? p.1.name p.2.name = some (r, side)) :
    hasReferenceColumn set p = r.ownsReference side := by
  cases howns : r.ownsReference side <;>
    simp [hasReferenceColumn, referenceColumn?_eq hfind, howns]

/-- **Each relation field** that has a reference column calls for its foreign key, and no other one
calls for any. -/
theorem forall₂_isForeignKeyOf (hset : set.Resolves d) :
    List.Forall₂ (IsForeignKeyOf d set) (d.relationFields.filter (hasReferenceColumn set))
      (d.relationFields.filterMap fun p : Place => alterationAt? d set p.toEnd) := by
  refine List.forall₂_filter_filterMap (fun p hp hhas => ?_) (fun p hp hhas => ?_)
  · obtain ⟨r, side, q, hfind, -, hside, hopp, hq⟩ := hset.exists_relation hp
    have howns : r.ownsReference side = true := (hasReferenceColumn_eq hfind).symm.trans hhas
    have hcolumn : r.referenceColumn side = referenceColumn p.2.name := by
      rw [Relation.referenceColumn, hside]
      rfl
    obtain ⟨ht, hf⟩ := Document.mem_relationFields.mp hp
    obtain ⟨table, htable⟩ := exists_tableOf hset ht
    obtain ⟨key, hkey, -⟩ := hset.exists_key hq.mem
    have htarget : d.objectType? p.2.typeName = some q.1 :=
      hset.valid.objectType?_eq_some_iff.mpr
        ⟨(Document.mem_relationFields.mp hq.mem).1, hq.onTarget⟩
    have hs := foreignKeyOf_eq_ok hset hside hopp hq.mem hkey
    have halteration : alterationAt? d set p.toEnd = (foreignKeyOf d r side).toOption := by
      simp only [alterationAt?, Place.toEnd, RelationEnd.of, hfind, howns, if_true]
    have hemitted := referenceColumn?_eq hfind
    have hdeclared := mem_columns_of_owns htable hf hfind howns
    rw [howns, if_pos rfl, hcolumn] at hemitted
    rw [hcolumn] at hdeclared
    rw [hs] at halteration
    exact ⟨_, halteration, _, q.1, key, hemitted, ⟨table, htable, hdeclared⟩, htarget, hkey, _, rfl⟩
  · obtain ⟨r, side, q, hfind, -⟩ := hset.exists_relation hp
    have howns : r.ownsReference side = false := (hasReferenceColumn_eq hfind).symm.trans hhas
    simp [alterationAt?, Place.toEnd, RelationEnd.of, hfind, howns]

/-- What an accepted foreign key refers to: the primary key of an object type. -/
theorem of_foreignKeyTo_eq_ok {table column targetType : String} {k : ForeignKey}
    (h : foreignKeyTo d table column targetType = .ok k) :
    k.column = column ∧ ∃ target ∈ d.objectTypes, ∃ key, target.primaryKey? = some key ∧
      k.targetTable = tableName target.name ∧ k.targetColumn = key.name := by
  obtain ⟨target, key, htarget, hkey, rfl⟩ := foreignKeyTo_eq_ok_iff.mp h
  exact ⟨rfl, target, List.mem_of_find?_eq_some htarget, key, hkey, rfl, rfl⟩

/-- What a junction table declares: a column for each side and a foreign key for each. -/
theorem of_junctionOf_eq_ok {r : Relation} {s : Statement} (h : junctionOf d r = .ok s) :
    ∃ keys, (Side.both.mapM fun side =>
        foreignKeyTo d r.junctionTable (r.junctionColumn side) (r.onSide side).objectType) =
        .ok keys ∧
      (∃ lines, s = .createTable r.junctionTable lines) ∧
      s.columns.map (·.name) = Side.both.map r.junctionColumn ∧
      s.foreignKeys = keys.map (r.junctionTable, ·) := by
  obtain ⟨keys, hkeys, hs⟩ := Except.bind_eq_ok_iff.mp h
  rw [← Except.pure_eq_ok_iff.mp hs]
  refine ⟨keys, hkeys, ⟨_, rfl⟩, ?_, ?_⟩
  · simp [Statement.columns, Function.comp_def]
  · simp [Statement.foreignKeys]

/-- **The statements of the relations that are no alterations** are the junction tables of the
many-to-many relations, in order. -/
theorem forall₂_isJunctionOf (hset : set.Resolves d) {others : List (List Statement)}
    (h : set.relations.mapM (relationStatements d) = .ok others) :
    List.Forall₂ IsJunctionOf (set.relations.filter (·.cardinality = .manyToMany))
      (others.flatten.filter (!·.isAlteration)) := by
  rw [filter_not_isAlteration_flatten_eq h]
  refine List.forall₂_filter_filterMap (fun r hr hcard => ?_) (fun r hr hcard => ?_)
  · obtain ⟨ss, hss⟩ := exists_relationStatements hset hr
    have hcard : r.cardinality = .manyToMany := of_decide_eq_true hcard
    rcases relationStatements_cases hss with ⟨-, s, hs, -⟩ | ⟨hnot, -⟩
    · obtain ⟨keys, hkeys, hcreate, hcolumns, hforeign⟩ := of_junctionOf_eq_ok hs
      have hon : keys.map (·.column) = Side.both.map r.junctionColumn :=
        List.map_eq_of_mapM_eq_ok hkeys fun side _ k hk => (of_foreignKeyTo_eq_ok hk).1
      refine ⟨s, by simp [junctionAt?, hcard, hs, Except.toOption], hcreate, hcolumns, ?_⟩
      rw [hforeign, ← hon, List.map_map]
      rfl
    · exact absurd hcard hnot
  · exact if_neg (of_decide_eq_false hcard)

/-! ### What foreign keys refer to -/

/-- The foreign keys of a relation refer to primary keys of object types. -/
theorem of_mem_foreignKeys {r : Relation} {ss : List Statement}
    (h : relationStatements d r = .ok ss) {s : Statement} (hs : s ∈ ss) {k : String × ForeignKey}
    (hk : k ∈ s.foreignKeys) :
    ∃ target ∈ d.objectTypes, ∃ key, target.primaryKey? = some key ∧
      k.2.targetTable = tableName target.name ∧ k.2.targetColumn = key.name := by
  rcases relationStatements_cases h with ⟨-, s', hs', rfl⟩ | ⟨-, hss⟩
  · obtain rfl := List.mem_singleton.mp hs
    obtain ⟨keys, hkeys, -, -, hforeign⟩ := of_junctionOf_eq_ok hs'
    rw [hforeign] at hk
    obtain ⟨key, hkey, rfl⟩ := List.mem_map.mp hk
    obtain ⟨side, -, hside⟩ := List.exists_mem_of_mapM_eq_ok hkeys hkey
    exact (of_foreignKeyTo_eq_ok hside).2
  · obtain ⟨side, -, hside⟩ := List.exists_mem_of_mapM_eq_ok hss hs
    obtain ⟨key, hkey, hs⟩ := Except.bind_eq_ok_iff.mp hside
    rw [← Except.pure_eq_ok_iff.mp hs] at hk
    obtain rfl := List.mem_singleton.mp hk
    exact (of_foreignKeyTo_eq_ok hkey).2

/-- **What a foreign key refers to stands before**: tables have none, and the statements of the
relations come after all tables. -/
theorem exists_createsKeyed (hset : set.Resolves d) {tables : List Statement}
    {others : List (List Statement)}
    (htables : d.objectTypes.mapM (tableOf d set) = .ok tables)
    (hothers : set.relations.mapM (relationStatements d) = .ok others)
    {earlier later : List Statement} {s : Statement}
    (heq : tables ++ others.flatten = earlier ++ s :: later) {k : String × ForeignKey}
    (hk : k ∈ s.foreignKeys) :
    ∃ c ∈ earlier, c.CreatesKeyed k.2.targetTable k.2.targetColumn := by
  have hnotable : s ∉ tables := fun hs => by
    obtain ⟨t, -, ht⟩ := List.exists_mem_of_mapM_eq_ok htables hs
    rw [foreignKeys_of_tableOf ht] at hk
    exact List.not_mem_nil hk
  obtain ⟨middle, rfl, hflat⟩ : ∃ middle, earlier = tables ++ middle ∧
      others.flatten = middle ++ s :: later := by
    rcases List.append_eq_append_iff.mp heq with h | ⟨rest, rfl, hrest⟩
    · exact h
    · cases rest with
      | nil => exact ⟨[], by simp, by simpa using hrest.symm⟩
      | cons a rest =>
          obtain ⟨rfl, -⟩ := List.cons.inj hrest
          exact absurd (by simp) hnotable
  have hs : s ∈ others.flatten := by simp [hflat]
  obtain ⟨ss, hss, hs⟩ := List.mem_flatten.mp hs
  obtain ⟨r, -, hr⟩ := List.exists_mem_of_mapM_eq_ok hothers hss
  obtain ⟨target, htarget, key, hkey, htable, hcolumn⟩ := of_mem_foreignKeys hr hs hk
  obtain ⟨c, hc⟩ := exists_tableOf hset htarget
  rw [htable, hcolumn]
  exact ⟨c, List.mem_append_left _ (List.mem_of_mapM_eq_ok htables htarget hc),
    createsKeyed_of_tableOf hc hkey⟩

/-! ### The whole script -/

/-- **The script of a resolved document is referentially closed.** -/
theorem script_isClosed {objectTypes : List ObjectType} {enumTypes : List EnumType}
    (hd : Document.validated objectTypes enumTypes = .ok d) (h : RelationSet.resolve d = .ok set) :
    ∃ tables others, statements d set = .ok (tables ++ others) ∧ IsClosed d set tables others := by
  have hset := RelationSet.resolves_of_resolve hd h
  obtain ⟨script, hscript⟩ := exists_statements hset
  obtain ⟨tables, others, htables, hothers, rfl⟩ := statements_eq_ok_iff.mp hscript
  have hplain : tables.filter (·.isAlteration) = [] := by
    rw [List.filter_eq_nil_iff]
    intro s hs
    obtain ⟨t, -, ht⟩ := List.exists_mem_of_mapM_eq_ok htables hs
    obtain ⟨_, _, _, -, -, -, ⟨lines, rfl⟩, -⟩ := of_tableOf_eq_ok ht
    exact Bool.false_ne_true
  refine ⟨tables, others.flatten, hscript, ?_, ?_, forall₂_isJunctionOf hset hothers,
    fun earlier s later heq k hk => exists_createsKeyed hset htables hothers heq hk⟩
  · refine (List.mapM_eq_ok_iff.mp htables).imp fun t s hs => ⟨hs, ?_⟩
    obtain ⟨_, _, _, -, -, -, hcreate, -⟩ := of_tableOf_eq_ok hs
    exact hcreate
  · rw [List.filter_append, hplain, List.nil_append]
    exact ⟨_, filter_isAlteration_perm hset hothers, forall₂_isForeignKeyOf hset⟩

/-- The script of the library is referentially closed. -/
theorem library_isClosed : ∃ tables others,
    statements .library .library = .ok (tables ++ others) ∧
      IsClosed .library .library tables others := by
  have hd : Document.validated Document.library.objectTypes [] = .ok .library := by decide +kernel
  have h : RelationSet.resolve .library = .ok .library := by decide +kernel
  exact script_isClosed hd h

end DataModel.Sql
