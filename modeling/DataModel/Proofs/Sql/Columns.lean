import DataModel.Proofs.Sql.Script

/-!
# The names of the columns of a table

A table takes its columns from four sources: scalar fields, enum fields, the relation fields that
own a reference column, and two audit columns that every table has. Resolution sees to it that the
columns of the fields differ from each other. Nobody asks about the audit columns: a reference
column cannot have the name of one, since its ending is another, but a scalar or enum field can.

## Main results

* `columnNames_eq`: the names of the columns of a table, in terms of the fields of the type.
* `fieldColumns_nodup`: no two fields of a type of a resolved document have a column of one name.
* `columnNames_nodup_iff`: **the columns of a table have different names exactly when no scalar or
  enum field is named like an audit column.**
-/

open scoped List

namespace DataModel

/-- The fields of a type by their kinds are its fields in another order. -/
theorem ObjectType.fields_perm (t : ObjectType) :
    t.scalarFields ++ t.enumFields ++ t.relationFields ~ t.fields := by
  unfold scalarFields enumFields relationFields
  induction t.fields with
  | nil => exact .nil
  | cons f rest ih =>
      cases hkind : f.kind with
      | scalar s =>
          have hs : f.isScalar = true := by simp [Field.isScalar, Field.scalar?, hkind]
          have he : f.isEnum = false := by simp [Field.isEnum, hkind]
          have hr : f.isRelation = false := by simp [Field.isRelation, hkind]
          simpa [hs, he, hr] using ih
      | enum =>
          have hs : f.isScalar = false := by simp [Field.isScalar, Field.scalar?, hkind]
          have he : f.isEnum = true := by simp [Field.isEnum, hkind]
          have hr : f.isRelation = false := by simp [Field.isRelation, hkind]
          rw [List.append_assoc] at ih
          simpa [hs, he, hr] using List.perm_middle.trans (ih.cons f)
      | relation =>
          have hs : f.isScalar = false := by simp [Field.isScalar, Field.scalar?, hkind]
          have he : f.isEnum = false := by simp [Field.isEnum, hkind]
          have hr : f.isRelation = true := by simp [Field.isRelation, hkind]
          simpa [hs, he, hr] using List.perm_middle.trans (ih.cons f)

namespace Sql

variable {d : Document} {set : RelationSet} {t : ObjectType} {s : Statement}

/-- The name of the column of a field: a scalar or enum field has one of its own name, a relation
field its reference column if it owns one. -/
def columnName? (set : RelationSet) (t : ObjectType) (f : Field) : Option String :=
  if f.isValue then some f.name else set.ownedColumn? t.name f.name

/-- The name of the column of a field is the one that the document says it has. -/
theorem columnName?_eq_some_iff (h : set.Resolves d) (ht : t ∈ d.objectTypes) {f : Field}
    (hf : f ∈ t.fields) {column : String} :
    columnName? set t f = some column ↔ d.HasColumn t f column := by
  unfold columnName?
  by_cases hvalue : f.isValue = true
  · rw [if_pos hvalue, Document.hasColumn_value_iff hvalue, Option.some_inj, eq_comm]
  · have hkind : f.kind = .relation := by
      simpa [Document.isValue_iff] using hvalue
    have hp : (t, f) ∈ d.relationFields :=
      Document.mem_relationFields.mpr ⟨ht, Document.mem_relationFields_type.mpr ⟨hf, hkind⟩⟩
    rw [if_neg hvalue, h.collected.hasColumn_iff h.valid hp]

/-! ### From fields to names -/

/-- The column of a scalar field bears its name. -/
theorem scalarColumn_name {f : Field} {c : Column} (hf : f ∈ t.scalarFields)
    (h : scalarColumn t f = .ok c) : some c.name = columnName? set t f := by
  have hvalue : f.isValue = true := by
    simp [Field.isValue, (List.mem_filter.mp hf).2]
  rw [columnName?, if_pos hvalue, (of_scalarColumn_eq_ok h).1]

/-- The column of an enum field bears its name. -/
theorem enumColumn_name {f : Field} {c : Column} (hf : f ∈ t.enumFields)
    (h : enumColumn d f = .ok c) : some c.name = columnName? set t f := by
  have hvalue : f.isValue = true := by
    simp [Field.isValue, (List.mem_filter.mp hf).2]
  rw [columnName?, if_pos hvalue, (of_enumColumn_eq_ok h).1]

/-- The reference column of a relation field is the one that the set gives it. -/
theorem referenceColumn?_name {f : Field} {c : Option Column} (hf : f ∈ t.relationFields)
    (h : referenceColumn? set t f = .ok c) : c.map (·.name) = columnName? set t f := by
  have hvalue : ¬ f.isValue = true := by
    simpa [Document.isValue_iff] using (Document.mem_relationFields_type.mp hf).2
  obtain ⟨r, side, hfind, rfl⟩ := of_referenceColumn?_eq_ok h
  simp only [columnName?, if_neg hvalue, RelationSet.ownedColumn?, hfind]
  split <;> rfl

/-- **The names of the columns of a table**: those of the fields, by their kinds, and those of the
audit columns. -/
theorem columnNames_eq (h : tableOf d set t = .ok s) :
    s.columns.map (·.name) =
      (t.scalarFields ++ t.enumFields ++ t.relationFields).filterMap (columnName? set t) ++
        auditColumns.map (·.name) := by
  obtain ⟨scalars, enums, references, hscalars, henums, hreferences, -, hcolumns⟩ :=
    of_tableOf_eq_ok h
  have hs : scalars.filterMap (fun c => some c.name) =
      t.scalarFields.filterMap (columnName? set t) :=
    List.filterMap_eq_of_mapM_eq_ok hscalars fun f hf c hc => scalarColumn_name hf hc
  have he : enums.filterMap (fun c => some c.name) = t.enumFields.filterMap (columnName? set t) :=
    List.filterMap_eq_of_mapM_eq_ok henums fun f hf c hc => enumColumn_name hf hc
  have hr : references.filterMap (Option.map (·.name)) =
      t.relationFields.filterMap (columnName? set t) :=
    List.filterMap_eq_of_mapM_eq_ok hreferences fun f hf c hc => referenceColumn?_name hf hc
  rw [hcolumns, List.filterMap_append, List.filterMap_append, ← hs, ← he, ← hr]
  simp [List.map_filterMap]

/-! ### Which names meet -/

/-- **No two fields** of a type of a resolved document have a column of one name. -/
theorem fieldColumns_nodup (h : set.Resolves d) (ht : t ∈ d.objectTypes) :
    ((t.scalarFields ++ t.enumFields ++ t.relationFields).filterMap (columnName? set t)).Nodup := by
  have hfields : t.fields.Nodup := .of_map _ (h.valid.fieldNames_nodup t ht)
  have hmem : ∀ {f}, f ∈ t.scalarFields ++ t.enumFields ++ t.relationFields → f ∈ t.fields :=
    fun hf => t.fields_perm.mem_iff.mp hf
  refine (List.nodup_filterMap_iff (t.fields_perm.nodup_iff.mpr hfields)).mpr ?_
  intro f hf g hg column hfc hgc
  exact h.columns t ht f (hmem hf) g (hmem hg) column
    ((columnName?_eq_some_iff h ht (hmem hf)).mp hfc)
    ((columnName?_eq_some_iff h ht (hmem hg)).mp hgc)

/-- A reference column is no audit column: their last letters differ. -/
theorem referenceColumn_notMem_audit (n : String) :
    referenceColumn n ∉ auditColumns.map (·.name) := by
  have hlast : (referenceColumn n).toList.getLast? = some 'd' := by
    simp [referenceColumn]
  have haudit : ∀ column ∈ auditColumns.map (·.name), column.toList.getLast? = some 't' := by
    decide
  intro hmem
  exact absurd (hlast.symm.trans (haudit _ hmem)) (by decide)

/-- The columns of the fields stay clear of the audit columns exactly when no scalar or enum field
is named like one. -/
theorem disjoint_audit_iff (h : set.Resolves d) (ht : t ∈ d.objectTypes) :
    (∀ f ∈ t.fields, ∀ column, columnName? set t f = some column →
        column ∉ auditColumns.map (·.name)) ↔
      ∀ f ∈ t.fields, f.isValue = true → f.name ∉ auditColumns.map (·.name) := by
  constructor
  · intro hclear f hf hvalue
    exact hclear f hf f.name (if_pos hvalue)
  · intro hvalues f hf column hcolumn
    rcases (columnName?_eq_some_iff h ht hf).mp hcolumn with hvalue | ⟨-, -⟩
    · exact hvalues f hf hvalue
    · exact referenceColumn_notMem_audit f.name

/-- **The columns of a table have different names** exactly when no scalar or enum field of the type
is named like an audit column. The table exists in any case. -/
theorem columnNames_nodup_iff {objectTypes : List ObjectType} {enumTypes : List EnumType}
    (hd : Document.validated objectTypes enumTypes = .ok d) (h : RelationSet.resolve d = .ok set)
    (ht : t ∈ d.objectTypes) :
    ∃ s, tableOf d set t = .ok s ∧
      ((s.columns.map (·.name)).Nodup ↔
        ∀ f ∈ t.fields, f.isValue = true → f.name ∉ auditColumns.map (·.name)) := by
  have hset := RelationSet.resolves_of_resolve hd h
  obtain ⟨s, hs⟩ := exists_tableOf hset ht
  refine ⟨s, hs, ?_⟩
  rw [← disjoint_audit_iff hset ht, columnNames_eq hs, List.nodup_append]
  have haudit : (auditColumns.map (·.name)).Nodup := by decide
  constructor
  · rintro ⟨-, -, hclear⟩ f hf column hcolumn hmem
    have hf' := t.fields_perm.mem_iff.mpr hf
    exact hclear column (List.mem_filterMap.mpr ⟨f, hf', hcolumn⟩) column hmem rfl
  · intro hclear
    refine ⟨fieldColumns_nodup hset ht, haudit, ?_⟩
    rintro column hcolumn _ hmem rfl
    obtain ⟨f, hf, hname⟩ := List.mem_filterMap.mp hcolumn
    exact hclear f (t.fields_perm.mem_iff.mp hf) column hname hmem

/-- The table of books in the library has columns of different names. -/
theorem library_columnNames_nodup :
    ∃ t ∈ Document.library.objectTypes, t.name = "Book" ∧ ∃ s, tableOf .library .library t = .ok s ∧
      (s.columns.map (·.name)).Nodup := by
  have hd : Document.validated Document.library.objectTypes [] = .ok .library := by decide +kernel
  have h : RelationSet.resolve .library = .ok .library := by decide +kernel
  refine ⟨Document.library.objectTypes[1], by decide, by decide, ?_⟩
  obtain ⟨s, hs, hiff⟩ := columnNames_nodup_iff hd h (t := Document.library.objectTypes[1])
    (by decide)
  exact ⟨s, hs, hiff.mpr (by decide)⟩

end Sql

/-- A journal whose entries say themselves when they were created. -/
def Document.journal : Document where
  objectTypes :=
    [ .of "Entry"
        [ { name := "id", typeName := "ID", kind := .scalar .id, required := true },
          { name := "created_at", typeName := "DateTime", kind := .scalar .dateTime } ] {} ]
  enumTypes := []

/-- The table of entries of the journal has two columns of one name, although the journal is
accepted and resolved. -/
theorem Sql.journal_repeats_column :
    Document.validated Document.journal.objectTypes [] = .ok .journal ∧
      RelationSet.resolve .journal = .ok ⟨[]⟩ ∧
      ∃ t ∈ Document.journal.objectTypes, ∃ s, tableOf .journal ⟨[]⟩ t = .ok s ∧
        ¬ (s.columns.map (·.name)).Nodup := by
  refine ⟨by decide +kernel, by decide +kernel, Document.journal.objectTypes[0], by decide, ?_⟩
  exact ⟨_, rfl, by decide⟩

end DataModel
