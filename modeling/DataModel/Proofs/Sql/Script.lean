import DataModel.Proofs.Relation.Resolvability
import DataModel.Sql.Tables

/-!
# The script of a resolved document

None of the faults that the generator of statements watches for arises from an accepted document
with its own relations: every scalar field has a scalar type, every enum is declared, every relation
field is on a relation, and every type that is referred to has a primary key. What each statement
declares is read off here once.

## Main results

* `Sql.of_scalarColumn_eq_ok`, `Sql.of_enumColumn_eq_ok`, `Sql.of_referenceColumn?_eq_ok`: what the
  column of a field is.
* `Sql.of_tableOf_eq_ok`: the columns of the table of an object type, in order.
* `Sql.foreignKeyOf_eq_ok`, `Sql.junctionOf_eq_ok`: the foreign key of a reference column and the
  junction table of a relation.
* `Sql.exists_statements`: the statements of a resolved document exist.
-/

namespace DataModel.Sql

/-! ### What a statement says -/

namespace Statement

/-- The statement creates a table that declares a column. -/
def Declares (s : Statement) (table column : String) : Prop :=
  (∃ lines, s = .createTable table lines) ∧ ∃ c ∈ s.columns, c.name = column

/-- The statement alters a table by a foreign key from a column to a column of a target table. -/
def AddsReference (s : Statement) (table column targetTable targetColumn : String) : Prop :=
  ∃ name, s = .addForeignKey table ⟨name, column, targetTable, targetColumn⟩

/-- The table that the statement creates holds a foreign key from a column to a column of a target
table. -/
def HoldsReference (s : Statement) (table column targetTable targetColumn : String) : Prop :=
  ∃ name, (table, ⟨name, column, targetTable, targetColumn⟩) ∈ s.foreignKeys

end Statement

variable {d : Document} {set : RelationSet}

/-! ### Tables of object types -/

/-- The primary key is an identifier. -/
theorem isId_of_primaryKey? {t : ObjectType} {f : Field} (h : t.primaryKey? = some f) :
    f.kind = .scalar .id := by
  simpa [Field.isId] using List.find?_some h

/-- A field that bears the name of the primary key is the primary key. -/
theorem primaryKey?_name_eq_iff (hd : d.Valid) {t : ObjectType} (ht : t ∈ d.objectTypes) {f : Field}
    (hf : f ∈ t.fields) : t.primaryKey?.map (·.name) = some f.name ↔ t.primaryKey? = some f := by
  rw [Option.map_eq_some_iff]
  constructor
  · rintro ⟨key, hkey, hname⟩
    have hmem : key ∈ t.fields := List.mem_of_find?_eq_some hkey
    rw [hkey, List.eq_of_map_nodup (hd.fieldNames_nodup t ht) hmem hf hname]
  · intro hkey
    exact ⟨f, hkey, rfl⟩

/-- A scalar field has a column. -/
theorem exists_scalarColumn {t : ObjectType} {f : Field} (hf : f ∈ t.scalarFields) :
    ∃ c, scalarColumn t f = .ok c := by
  obtain ⟨scalar, hscalar⟩ := Option.isSome_iff_exists.mp (List.mem_filter.mp hf).2
  simp only [scalarColumn, hscalar]
  split <;> exact ⟨_, rfl⟩

/-- An enum field of a valid document has a column. -/
theorem exists_enumColumn (hd : d.Valid) {t : ObjectType} (ht : t ∈ d.objectTypes) {f : Field}
    (hf : f ∈ t.enumFields) : ∃ c, enumColumn d f = .ok c := by
  obtain ⟨hft, henum⟩ := List.mem_filter.mp hf
  have hkind : f.kind = .enum := by simpa [Field.isEnum] using henum
  have hknown := hd.kindIsKnown t ht f hft
  simp only [Document.kindIsKnown, hkind] at hknown
  obtain ⟨e, he⟩ := Option.isSome_iff_exists.mp hknown
  rw [enumColumn, he]
  exact ⟨_, rfl⟩

/-- The reference column of a relation field that is found on a side. -/
theorem referenceColumn?_eq {t : ObjectType} {f : Field} {r : Relation} {side : Side}
    (hfind : set.forField? t.name f.name = some (r, side)) :
    referenceColumn? set t f = .ok (if r.ownsReference side then
      some ⟨r.referenceColumn side, .value .key f.required none⟩ else none) := by
  simp only [referenceColumn?, hfind]
  split <;> rfl

/-- What the column of a scalar field is: it bears the name of the field, and it is the primary key
when the field is. -/
theorem of_scalarColumn_eq_ok {t : ObjectType} {f : Field} {c : Column}
    (h : scalarColumn t f = .ok c) :
    c.name = f.name ∧ (c.role = .primaryKey ↔ t.primaryKey?.map (·.name) = some f.name) := by
  unfold scalarColumn at h
  cases hscalar : f.scalar? with
  | none => simp [hscalar] at h
  | some scalar =>
      simp only [hscalar] at h
      split at h
      case isTrue hkey =>
        obtain rfl := Except.ok.inj h
        exact ⟨rfl, by simpa using hkey⟩
      case isFalse hkey =>
        obtain rfl := Except.ok.inj h
        exact ⟨rfl, by simpa using hkey⟩

/-- What the column of an enum field is: it bears the name of the field and is no primary key. -/
theorem of_enumColumn_eq_ok {f : Field} {c : Column} (h : enumColumn d f = .ok c) :
    c.name = f.name ∧ c.role ≠ .primaryKey := by
  unfold enumColumn at h
  cases henum : d.enumType? f.typeName with
  | none => simp [henum] at h
  | some e =>
      simp only [henum] at h
      obtain rfl := Except.ok.inj h
      exact ⟨rfl, nofun⟩

/-- What the reference column of a relation field is: that of the side the field is on, if the side
owns one. -/
theorem of_referenceColumn?_eq_ok {t : ObjectType} {f : Field} {c : Option Column}
    (h : referenceColumn? set t f = .ok c) :
    ∃ r side, set.forField? t.name f.name = some (r, side) ∧
      c = if r.ownsReference side then some ⟨r.referenceColumn side, .value .key f.required none⟩
        else none := by
  cases hfind : set.forField? t.name f.name with
  | none => simp [referenceColumn?, hfind] at h
  | some found =>
      obtain ⟨r, side⟩ := found
      exact ⟨r, side, rfl, Except.ok.inj (h.symm.trans (referenceColumn?_eq hfind))⟩

/-- The table of an object type exists. -/
theorem exists_tableOf (h : set.Resolves d) {t : ObjectType} (ht : t ∈ d.objectTypes) :
    ∃ s, tableOf d set t = .ok s := by
  obtain ⟨scalars, hscalars⟩ := List.mapM_succeeds fun f hf => exists_scalarColumn (t := t) hf
  obtain ⟨enums, henums⟩ := List.mapM_succeeds fun f hf => exists_enumColumn h.valid ht hf
  obtain ⟨references, hreferences⟩ :
      ∃ cs, t.relationFields.mapM (referenceColumn? set t) = .ok cs :=
    List.mapM_succeeds fun f hf => by
      obtain ⟨r, side, -, hfind, -⟩ :=
        h.exists_relation (p := (t, f)) (Document.mem_relationFields.mpr ⟨ht, hf⟩)
      exact ⟨_, referenceColumn?_eq hfind⟩
  exact ⟨_, by simp only [tableOf, hscalars, henums, hreferences]; rfl⟩

/-- **The columns of a table**: scalar columns, enum columns, reference columns and the two audit
columns, in this order. -/
theorem of_tableOf_eq_ok {t : ObjectType} {s : Statement} (h : tableOf d set t = .ok s) :
    ∃ scalars enums references, t.scalarFields.mapM (scalarColumn t) = .ok scalars ∧
      t.enumFields.mapM (enumColumn d) = .ok enums ∧
      t.relationFields.mapM (referenceColumn? set t) = .ok references ∧
      (∃ lines, s = .createTable (tableName t.name) lines) ∧
      s.columns = scalars ++ enums ++ references.filterMap id ++ auditColumns := by
  simp only [tableOf, Except.bind_eq_ok_iff, Except.pure_eq_ok_iff] at h
  obtain ⟨scalars, hscalars, enums, henums, references, hreferences, rfl⟩ := h
  refine ⟨scalars, enums, references, hscalars, henums, hreferences, ⟨_, rfl⟩, ?_⟩
  simp [Statement.columns, uniqueLine, indexLine, Function.comp_def]

/-- The columns of a table include the reference column of every field that owns one. -/
theorem mem_columns_of_owns {t : ObjectType} {s : Statement} (h : tableOf d set t = .ok s)
    {f : Field} (hf : f ∈ t.relationFields) {r : Relation} {side : Side}
    (hfind : set.forField? t.name f.name = some (r, side)) (howns : r.ownsReference side = true) :
    ⟨r.referenceColumn side, .value .key f.required none⟩ ∈ s.columns := by
  obtain ⟨scalars, enums, references, -, -, hreferences, -, hcolumns⟩ := of_tableOf_eq_ok h
  have hmem := List.mem_of_mapM_eq_ok hreferences hf (referenceColumn?_eq hfind)
  rw [if_pos howns] at hmem
  rw [hcolumns]
  simp only [List.mem_append, List.mem_filterMap, id_eq]
  exact Or.inl (Or.inr ⟨_, hmem, rfl⟩)

/-! ### Foreign keys and junction tables -/

/-- A foreign key to a declared type with a primary key. -/
theorem foreignKeyTo_eq_ok (hd : d.Valid) {t : ObjectType} (ht : t ∈ d.objectTypes) {key : Field}
    (hkey : t.primaryKey? = some key) (table column : String) :
    foreignKeyTo d table column t.name =
      .ok ⟨constraintName table [column] "foreign", column, tableName t.name, key.name⟩ := by
  rw [foreignKeyTo, hd.objectType?_eq_some_iff.mpr ⟨ht, rfl⟩]
  simp only [hkey]

/-- All that a foreign key can be: it is named after its table and column, and refers to the primary
key of a declared type. -/
theorem foreignKeyTo_eq_ok_iff {table column targetType : String} {k : ForeignKey} :
    foreignKeyTo d table column targetType = .ok k ↔
      ∃ target key, d.objectType? targetType = some target ∧ target.primaryKey? = some key ∧
        k = ⟨constraintName table [column] "foreign", column, tableName target.name, key.name⟩ := by
  unfold foreignKeyTo
  cases htarget : d.objectType? targetType with
  | none => simp
  | some target =>
      cases hkey : target.primaryKey? with
      | none => simp [hkey]
      | some key => simp [hkey, eq_comm]

section Relations

variable {r : Relation} {side : Side} {p q : Place}

/-- **The foreign key of a side** is on the table and reference column of its field and refers to
the primary key of the other side's type. -/
theorem foreignKeyOf_eq_ok (h : set.Resolves d) (hside : r.onSide side = p.toEnd)
    (hopp : r.onSide side.opposite = q.toEnd) (hq : q ∈ d.relationFields) {key : Field}
    (hkey : q.1.primaryKey? = some key) :
    foreignKeyOf d r side = .ok (.addForeignKey (tableName p.1.name)
      ⟨constraintName (tableName p.1.name) [referenceColumn p.2.name] "foreign",
        referenceColumn p.2.name, tableName q.1.name, key.name⟩) := by
  have htarget := (Document.mem_relationFields.mp hq).1
  have hcolumn : r.referenceColumn side = referenceColumn p.2.name := by
    rw [Relation.referenceColumn, hside]
    rfl
  simp only [foreignKeyOf, hcolumn, hside, hopp]
  have hto := foreignKeyTo_eq_ok h.valid htarget hkey (tableName p.1.name)
    (referenceColumn p.2.name)
  exact Except.bind_eq_ok_iff.mpr ⟨_, hto, rfl⟩

/-- **The junction table** of a relation has two key columns, each of which refers to the primary
key of the type on its side. -/
theorem junctionOf_eq_ok (h : set.Resolves d) (ha : r.onSide .a = p.toEnd)
    (hb : r.onSide .b = q.toEnd)
    (hp : p ∈ d.relationFields) (hq : q ∈ d.relationFields) {pkey qkey : Field}
    (hpkey : p.1.primaryKey? = some pkey) (hqkey : q.1.primaryKey? = some qkey) :
    junctionOf d r = .ok (.createTable r.name
      [.column ⟨r.junctionColumn .a, .value .key true none⟩,
        .column ⟨r.junctionColumn .b, .value .key true none⟩,
        .foreignKey ⟨constraintName r.name [r.junctionColumn .a] "foreign", r.junctionColumn .a,
          tableName p.1.name, pkey.name⟩,
        .foreignKey ⟨constraintName r.name [r.junctionColumn .b] "foreign", r.junctionColumn .b,
          tableName q.1.name, qkey.name⟩]) := by
  have hpto := foreignKeyTo_eq_ok h.valid (Document.mem_relationFields.mp hp).1 hpkey r.name
    (r.junctionColumn .a)
  have hqto := foreignKeyTo_eq_ok h.valid (Document.mem_relationFields.mp hq).1 hqkey r.name
    (r.junctionColumn .b)
  have hkeys : Side.both.mapM (fun side =>
      foreignKeyTo d r.name (r.junctionColumn side) (r.onSide side).objectType) =
      .ok [_, _] :=
    List.mapM_eq_ok_iff.mpr (.cons (by rw [ha]; exact hpto) (.cons (by rw [hb]; exact hqto) .nil))
  exact Except.bind_eq_ok_iff.mpr ⟨_, hkeys, rfl⟩

end Relations

/-- The statements of a relation of a resolved document exist. -/
theorem exists_relationStatements (h : set.Resolves d) {r : Relation} (hr : r ∈ set.relations) :
    ∃ ss, relationStatements d r = .ok ss := by
  obtain ⟨p, hp, ha⟩ := h.collected.exists_place hr .a
  obtain ⟨q, hq, hb⟩ := h.collected.exists_place hr .b
  obtain ⟨pkey, hpkey, -⟩ := h.exists_key hp
  obtain ⟨qkey, hqkey, -⟩ := h.exists_key hq
  have hkeys : ∃ ss, (Side.both.filter r.ownsReference).mapM (foreignKeyOf d r) = .ok ss :=
    List.mapM_succeeds fun side _ => by
      cases side with
      | a => exact ⟨_, foreignKeyOf_eq_ok h ha hb hq hqkey⟩
      | b => exact ⟨_, foreignKeyOf_eq_ok h hb ha hp hpkey⟩
  cases hcard : r.cardinality with
  | manyToMany =>
      have hjunction := junctionOf_eq_ok h ha hb hp hq hpkey hqkey
      exact ⟨_, by simp only [relationStatements, hcard, hjunction]; rfl⟩
  | oneToOne => simpa only [relationStatements, hcard] using hkeys
  | oneToMany owner => simpa only [relationStatements, hcard] using hkeys

/-! ### The whole script -/

/-- The script is made of the tables of the object types and the statements of the relations. -/
theorem statements_eq_ok_iff {script : List Statement} :
    statements d set = .ok script ↔ ∃ tables others,
      d.objectTypes.mapM (tableOf d set) = .ok tables ∧
      set.relations.mapM (relationStatements d) = .ok others ∧
      tables ++ others.flatten = script := by
  simp only [statements, Except.bind_eq_ok_iff, Except.pure_eq_ok_iff]
  constructor
  · rintro ⟨tables, htables, others, hothers, heq⟩
    exact ⟨tables, others, htables, hothers, heq⟩
  · rintro ⟨tables, others, htables, hothers, heq⟩
    exact ⟨tables, htables, others, hothers, heq⟩

/-- **The statements of a resolved document exist.** -/
theorem exists_statements (h : set.Resolves d) : ∃ script, statements d set = .ok script := by
  obtain ⟨tables, htables⟩ := List.mapM_succeeds fun t ht => exists_tableOf h (t := t) ht
  obtain ⟨others, hothers⟩ := List.mapM_succeeds fun r hr => exists_relationStatements h (r := r) hr
  exact ⟨_, statements_eq_ok_iff.mpr ⟨tables, others, htables, hothers, rfl⟩⟩

/-- The table of every object type is in the script. -/
theorem mem_script_of_tableOf {script : List Statement} (h : statements d set = .ok script)
    {t : ObjectType} (ht : t ∈ d.objectTypes) {s : Statement} (hs : tableOf d set t = .ok s) :
    s ∈ script := by
  obtain ⟨tables, others, htables, -, rfl⟩ := statements_eq_ok_iff.mp h
  exact List.mem_append_left _ (List.mem_of_mapM_eq_ok htables ht hs)

/-- The statements of every relation are in the script. -/
theorem mem_script_of_relationStatements {script : List Statement}
    (h : statements d set = .ok script) {r : Relation} (hr : r ∈ set.relations)
    {ss : List Statement} (hss : relationStatements d r = .ok ss) {s : Statement} (hs : s ∈ ss) :
    s ∈ script := by
  obtain ⟨tables, others, -, hothers, rfl⟩ := statements_eq_ok_iff.mp h
  exact List.mem_append_right _
    (List.mem_flatten.mpr ⟨ss, List.mem_of_mapM_eq_ok hothers hr hss, hs⟩)

/-- The foreign key of a side that owns a reference column is in the script. -/
theorem mem_script_of_owns (h : set.Resolves d) {script : List Statement}
    (hscript : statements d set = .ok script) {r : Relation} (hr : r ∈ set.relations) {side : Side}
    (howns : r.ownsReference side = true) {s : Statement} (hs : foreignKeyOf d r side = .ok s) :
    s ∈ script := by
  obtain ⟨ss, hss⟩ := exists_relationStatements h hr
  refine mem_script_of_relationStatements hscript hr hss ?_
  have hside : side ∈ Side.both.filter r.ownsReference := List.mem_filter.mpr ⟨by simp, howns⟩
  unfold relationStatements at hss
  cases hcard : r.cardinality with
  | manyToMany => simp [Relation.ownsReference, hcard] at howns
  | oneToOne =>
      rw [hcard] at hss
      exact List.mem_of_mapM_eq_ok hss hside hs
  | oneToMany owner =>
      rw [hcard] at hss
      exact List.mem_of_mapM_eq_ok hss hside hs

/-- The junction table of a many-to-many relation is in the script. -/
theorem mem_script_of_manyToMany {script : List Statement} (hscript : statements d set = .ok script)
    {r : Relation} (hr : r ∈ set.relations) (hcard : r.cardinality = .manyToMany) {s : Statement}
    (hs : junctionOf d r = .ok s) : s ∈ script := by
  have hss : relationStatements d r = .ok [s] := by
    simp only [relationStatements, hcard, hs]
    rfl
  exact mem_script_of_relationStatements hscript hr hss (List.mem_singleton_self s)

end DataModel.Sql
