import DataModel.Proofs.Relation.Hints
import DataModel.Proofs.Sql.References

/-!
# Scripts of documents that differ in their hints

A hint names a relation, and the name of a relation is used for one thing only: it is the name of
the junction table, if there is one, and so it stands in the names of the foreign keys on that
table. All other tables and columns are named after types and fields. Documents that differ in their
hints and pair the same fields therefore have the same script, up to the names of junction tables.

## Main results

* `tableOf_withoutHints`, `foreignKeyTo_withoutHints`: tables of types and targets of foreign keys
  do not depend on hints.
* `relationStatements_renamed`: the statements of a relation under another hint.
* `exists_scripts_renamed`: **scripts of documents that differ in their hints are equal statement by
  statement, except that junction tables bear the names of their relations.**
-/

open scoped List

namespace DataModel.Sql

/-! ### Statements on another table -/

/-- The foreign key as it is named on a table. -/
def ForeignKey.onTable (table : String) (k : ForeignKey) : ForeignKey :=
  { k with name := constraintName table [k.column] "foreign" }

/-- The line as it stands in the definition of a table: a foreign key is named after the table. -/
def TableLine.onTable (table : String) : TableLine → TableLine
  | .foreignKey key => .foreignKey (key.onTable table)
  | line => line

/-- The statement with another name for the table that it creates. -/
def Statement.onTable (table : String) : Statement → Statement
  | .createTable _ lines => .createTable table (lines.map (·.onTable table))
  | .addForeignKey other key => .addForeignKey other key

variable {d d' : Document} {set set' : RelationSet}

/-! ### Tables of object types -/

/-- The column of a scalar field does not depend on hints. -/
theorem scalarColumn_withoutHints (t : ObjectType) (f : Field) :
    scalarColumn t.withoutHints f.withoutHint = scalarColumn t f := by
  have hkey : t.withoutHints.primaryKey?.map (·.name) = t.primaryKey?.map (·.name) := by
    rw [t.primaryKey?_withoutHints, Option.map_map]
    rfl
  unfold scalarColumn
  rw [hkey]
  rfl

/-- The reference column of a relation field does not depend on hints. -/
theorem referenceColumn?_withoutHints (set : RelationSet) (t : ObjectType) (f : Field) :
    referenceColumn? set.withoutHints t.withoutHints f.withoutHint = referenceColumn? set t f := by
  have hfind := set.forField?_withoutHints t.name f.name
  have hname : f.withoutHint.name = f.name := rfl
  have htype : t.withoutHints.name = t.name := rfl
  simp only [referenceColumn?, htype, hname, hfind]
  cases set.forField? t.name f.name <;> rfl

/-- **The table of an object type** does not depend on hints. -/
theorem tableOf_withoutHints (d : Document) (set : RelationSet) (t : ObjectType) :
    tableOf d.withoutHints set.withoutHints t.withoutHints = tableOf d set t := by
  have hscalars : t.withoutHints.scalarFields.mapM (scalarColumn t.withoutHints) =
      t.scalarFields.mapM (scalarColumn t) := by
    rw [t.scalarFields_withoutHints, List.mapM_map]
    exact congrArg (List.mapM · _) (funext (scalarColumn_withoutHints t))
  have henums : t.withoutHints.enumFields.mapM (enumColumn d.withoutHints) =
      t.enumFields.mapM (enumColumn d) := by
    rw [t.enumFields_withoutHints, List.mapM_map]
    rfl
  have hreferences :
      t.withoutHints.relationFields.mapM (referenceColumn? set.withoutHints t.withoutHints) =
        t.relationFields.mapM (referenceColumn? set t) := by
    rw [t.relationFields_withoutHints, List.mapM_map]
    exact congrArg (List.mapM · _) (funext (referenceColumn?_withoutHints set t))
  rw [tableOf, hscalars, henums, hreferences]
  rfl

/-! ### Statements of relations -/

/-- What a foreign key refers to does not depend on hints. -/
theorem foreignKeyTo_withoutHints (d : Document) (table column targetType : String) :
    foreignKeyTo d.withoutHints table column targetType =
      foreignKeyTo d table column targetType := by
  simp only [foreignKeyTo, d.objectType?_withoutHints]
  cases d.objectType? targetType with
  | none => rfl
  | some target =>
      simp only [Option.map_some, target.primaryKey?_withoutHints]
      cases target.primaryKey? <;> rfl

/-- A foreign key is named after the table that it is on. -/
theorem foreignKeyTo_onTable {table column targetType : String} {k : ForeignKey}
    (h : foreignKeyTo d table column targetType = .ok k) (other : String) :
    foreignKeyTo d other column targetType = .ok (k.onTable other) := by
  obtain ⟨target, key, htarget, hkey, rfl⟩ := foreignKeyTo_eq_ok_iff.mp h
  exact foreignKeyTo_eq_ok_iff.mpr ⟨target, key, htarget, hkey, rfl⟩

/-- Foreign keys lead to the same targets in documents that differ in their hints. -/
theorem foreignKeyTo_eq_of_withoutHints_eq (hsame : d'.withoutHints = d.withoutHints)
    (table column targetType : String) :
    foreignKeyTo d' table column targetType = foreignKeyTo d table column targetType := by
  rw [← foreignKeyTo_withoutHints d', hsame, foreignKeyTo_withoutHints]

/-- The junction table of a relation under another hint has another name, and so have its foreign
keys. -/
theorem junctionOf_renamed (hsame : d'.withoutHints = d.withoutHints) {r r' : Relation}
    (hr : r'.withoutHint = r.withoutHint) {s : Statement} (h : junctionOf d r = .ok s) :
    junctionOf d' r' = .ok (s.onTable r'.junctionTable) := by
  obtain ⟨hint, rfl⟩ := Relation.exists_hint_of_withoutHint_eq hr
  obtain ⟨keys, hkeys, hs⟩ := Except.bind_eq_ok_iff.mp h
  obtain rfl := Except.pure_eq_ok_iff.mp hs
  refine Except.bind_eq_ok_iff.mpr
    ⟨keys.map (·.onTable { r with hint := hint }.junctionTable), ?_, ?_⟩
  · refine List.mapM_eq_ok_iff.mpr (List.forall₂_map_right_iff.mpr
      ((List.mapM_eq_ok_iff.mp hkeys).imp fun side k hk => ?_))
    rw [foreignKeyTo_eq_of_withoutHints_eq hsame]
    exact foreignKeyTo_onTable hk _
  · refine congrArg Except.ok ?_
    simp only [Statement.onTable, List.map_append, List.map_map]
    rfl

/-- The foreign key of a side does not depend on hints. -/
theorem foreignKeyOf_eq_of_withoutHint_eq (hsame : d'.withoutHints = d.withoutHints)
    {r r' : Relation} (hr : r'.withoutHint = r.withoutHint) (side : Side) :
    foreignKeyOf d' r' side = foreignKeyOf d r side := by
  obtain ⟨hint, rfl⟩ := Relation.exists_hint_of_withoutHint_eq hr
  simp only [foreignKeyOf, foreignKeyTo_eq_of_withoutHints_eq hsame]
  rfl

/-- Statements of two documents that are the same, except that a junction table bears the name of
its relation: both are the same statement, or both create the junction table of one many-to-many
relation. -/
inductive SameUpToName (d d' : Document) (set set' : RelationSet) : Statement → Statement → Prop
  | same (s : Statement) : SameUpToName d d' set set' s s
  | junction {r r' : Relation} {s : Statement} : r ∈ set.relations → r' ∈ set'.relations →
      r.cardinality = .manyToMany → r'.withoutHint = r.withoutHint → junctionOf d r = .ok s →
      junctionOf d' r' = .ok (s.onTable r'.junctionTable) →
      SameUpToName d d' set set' s (s.onTable r'.junctionTable)

/-- **The statements of a relation** under another hint are the same, except that a junction table
bears the name of the relation. -/
theorem exists_relationStatements_renamed (hsame : d'.withoutHints = d.withoutHints)
    {r r' : Relation} (hrset : r ∈ set.relations) (hrset' : r' ∈ set'.relations)
    (hr : r'.withoutHint = r.withoutHint) {ss : List Statement}
    (h : relationStatements d r = .ok ss) :
    ∃ ss', relationStatements d' r' = .ok ss' ∧
      List.Forall₂ (SameUpToName d d' set set') ss ss' := by
  have hcardinality : r'.cardinality = r.cardinality :=
    show r'.withoutHint.cardinality = r.withoutHint.cardinality from congrArg _ hr
  have howns : r'.ownsReference = r.ownsReference :=
    show r'.withoutHint.ownsReference = r.withoutHint.ownsReference from congrArg _ hr
  rcases relationStatements_cases h with ⟨hcard, s, hs, rfl⟩ | ⟨hcard, hkeys⟩
  · have hs' := junctionOf_renamed hsame hr hs
    refine ⟨[s.onTable r'.junctionTable], ?_, .cons (.junction hrset hrset' hcard hr hs hs') .nil⟩
    simp only [relationStatements, hcardinality, hcard, hs']
    rfl
  · refine ⟨ss, ?_, List.forall₂_same.mpr fun s _ => .same s⟩
    rw [← h]
    simp only [relationStatements, hcardinality, howns,
      funext (foreignKeyOf_eq_of_withoutHint_eq hsame hr)]

/-! ### The whole script -/

/-- The tables of the object types of documents that differ in their hints are the same. -/
theorem tables_eq_of_withoutHints_eq (hsame : d'.withoutHints = d.withoutHints)
    (hset : set'.withoutHints = set.withoutHints) :
    d'.objectTypes.mapM (tableOf d' set') = d.objectTypes.mapM (tableOf d set) := by
  have hmap : ∀ (d : Document) (set : RelationSet), d.objectTypes.mapM (tableOf d set) =
      d.withoutHints.objectTypes.mapM (tableOf d.withoutHints set.withoutHints) := fun d set => by
    rw [Document.withoutHints, List.mapM_map]
    exact congrArg (List.mapM · _) (funext fun t => (tableOf_withoutHints d set t).symm)
  rw [hmap, hsame, hset, ← hmap]

/-- **The scripts of documents that differ in their hints** are equal statement by statement, except
that junction tables bear the names of their relations. -/
theorem exists_scripts_renamed (h : set.Resolves d) (hsame : d'.withoutHints = d.withoutHints)
    (hset : set'.withoutHints = set.withoutHints) :
    ∃ script script', statements d set = .ok script ∧ statements d' set' = .ok script' ∧
      List.Forall₂ (SameUpToName d d' set set') script script' := by
  obtain ⟨script, hscript⟩ := exists_statements h
  obtain ⟨tables, others, htables, hothers, rfl⟩ := statements_eq_ok_iff.mp hscript
  obtain ⟨others', hothers', hsteps⟩ : ∃ others',
      set'.relations.mapM (relationStatements d') = .ok others' ∧
        List.Forall₂ (List.Forall₂ (SameUpToName d d' set set')) others others' :=
    List.exists_mapM_of_forall₂ (RelationSet.forall₂_of_withoutHints_eq hset) hothers
      fun _ hr _ hr' hrr' _ hss => exists_relationStatements_renamed hsame hr hr' hrr' hss
  refine ⟨_, tables ++ others'.flatten, hscript, statements_eq_ok_iff.mpr
    ⟨tables, others', ?_, hothers', rfl⟩, ?_⟩
  · rw [tables_eq_of_withoutHints_eq hsame hset, htables]
  · exact List.rel_append (List.forall₂_same.mpr fun s _ => .same s) (List.rel_flatten hsteps)

end DataModel.Sql
