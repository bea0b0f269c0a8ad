import DataModel.Proofs.Api.Generation

/-!
# Values that may be missing

Both the API and the script say of a field whether it always has a value: the API by a non-null
type, the script by a column that is `NOT NULL`. Each has a rule of its own. The script asks whether
the field is required or is the primary key, which is the first identifier of the type. The API asks
whether the field is required or an identifier, be it the first or not.

## Main results

* `Sql.Column.declaredNotNull_iff`: which column definitions say `NOT NULL` after the type.
* `Sql.role_isNotNull_iff`, `Api.isNonNull_iff`: what either rule says of a field that has a column.
* `Api.nullability_agrees_iff`: **the API and the script agree about a field** exactly when it is no
  further identifier that may be missing.
-/

namespace DataModel

variable {d : Document} {set : RelationSet} {t : ObjectType} {f : Field}

namespace Sql

/-! ### Column definitions that say `NOT NULL` -/

/-- The type that the definition of a column begins with. -/
def ColumnRole.typeText : ColumnRole → String
  | .primaryKey => ColumnType.key.render
  | .value type _ _ => type.render
  | .createdAt | .updatedAt => "TIMESTAMP"

/-- Whether a column of this role always has a value. -/
def ColumnRole.isNotNull : ColumnRole → Bool
  | .primaryKey => true
  | .value _ required _ => required
  | .createdAt | .updatedAt => false

/-- The definition of the column goes on with `NOT NULL` after name and type. -/
def Column.DeclaredNotNull (c : Column) : Prop :=
  ∃ rest, c.render = quoteIdentifier c.name ++ " " ++ (c.role.typeText ++ (" NOT NULL" ++ rest))

/-- What follows the type of a column without `NOT NULL` does not begin like it. -/
theorem ColumnRole.render_ne_notNull {role : ColumnRole} (h : role.isNotNull = false)
    (rest : String) : role.render ≠ role.typeText ++ (" NOT NULL" ++ rest) := by
  intro heq
  rw [← String.toList_inj] at heq
  cases role with
  | primaryKey => cases h
  | value type required default =>
      obtain rfl : required = false := h
      cases default <;> simp [render, typeText] at heq
  | createdAt => simp [render, typeText] at heq
  | updatedAt => simp [render, typeText] at heq

/-- **A column is declared `NOT NULL`** when it is a primary key or stores a required value. -/
theorem Column.declaredNotNull_iff {c : Column} :
    c.DeclaredNotNull ↔ c.role.isNotNull = true := by
  constructor
  · rintro ⟨rest, hrest⟩
    by_contra hnull
    refine ColumnRole.render_ne_notNull (Bool.eq_false_iff.mpr hnull) rest ?_
    simpa [Column.render, ← String.toList_inj] using hrest
  · intro hnotNull
    obtain ⟨name, role⟩ := c
    cases role with
    | primaryKey => exact ⟨" AUTO_INCREMENT PRIMARY KEY", rfl⟩
    | value type required default =>
        obtain rfl : required = true := hnotNull
        cases default with
        | none => exact ⟨"", by simp [Column.render, ColumnRole.render, ColumnRole.typeText]⟩
        | some v =>
            refine ⟨" DEFAULT " ++ renderDefault v, ?_⟩
            simp [Column.render, ColumnRole.render, ColumnRole.typeText, String.append_assoc]
    | createdAt => cases hnotNull
    | updatedAt => cases hnotNull

/-! ### The column of a field -/

/-- The column that is compiled for a field, if there is one. -/
def columnOf? (d : Document) (set : RelationSet) (t : ObjectType) (f : Field) :
    Except TableError (Option Column) :=
  match f.kind with
  | .scalar _ => (scalarColumn t f).map some
  | .enum => (enumColumn d f).map some
  | .relation => referenceColumn? set t f

/-- **A field that has a column** has it compiled into the table of its type. -/
theorem exists_columnOf? (h : set.Resolves d) (ht : t ∈ d.objectTypes) (hf : f ∈ t.fields)
    {table : Statement} (htable : tableOf d set t = .ok table) {column : String}
    (hcolumn : d.HasColumn t f column) :
    ∃ c ∈ table.columns, columnOf? d set t f = .ok (some c) ∧ c.name = column := by
  obtain ⟨scalars, enums, references, hscalars, henums, -, -, hcolumns⟩ := of_tableOf_eq_ok htable
  unfold columnOf?
  cases hkind : f.kind with
  | scalar s =>
      have hfs : f ∈ t.scalarFields :=
        List.mem_filter.mpr ⟨hf, by simp [Field.isScalar, Field.scalar?, hkind]⟩
      obtain ⟨c, hc⟩ := exists_scalarColumn (t := t) hfs
      have hmem := List.mem_of_mapM_eq_ok hscalars hfs hc
      have hvalue : f.isValue = true := Document.isValue_iff.mpr (by simp [hkind])
      refine ⟨c, by simp [hcolumns, hmem], by simp [hc, Except.map], ?_⟩
      rw [(of_scalarColumn_eq_ok hc).1, (Document.hasColumn_value_iff hvalue).mp hcolumn]
  | enum =>
      have hfe : f ∈ t.enumFields := List.mem_filter.mpr ⟨hf, by simp [Field.isEnum, hkind]⟩
      obtain ⟨c, hc⟩ := exists_enumColumn h.valid ht hfe
      have hmem := List.mem_of_mapM_eq_ok henums hfe hc
      have hvalue : f.isValue = true := Document.isValue_iff.mpr (by simp [hkind])
      refine ⟨c, by simp [hcolumns, hmem], by simp [hc, Except.map], ?_⟩
      rw [(of_enumColumn_eq_ok hc).1, (Document.hasColumn_value_iff hvalue).mp hcolumn]
  | relation =>
      have hfr : f ∈ t.relationFields := Document.mem_relationFields_type.mpr ⟨hf, hkind⟩
      have hp : (t, f) ∈ d.relationFields := Document.mem_relationFields.mpr ⟨ht, hfr⟩
      obtain ⟨r, side, -, hfind, hr, hside, -⟩ := h.exists_relation hp
      have hnotValue : ¬ f.isValue = true := fun hvalue => Document.isValue_iff.mp hvalue hkind
      obtain ⟨howned, rfl⟩ :
          d.OwnsReference (t, f) ∧ column = DataModel.referenceColumn f.name := by
        cases hcolumn with
        | value hvalue => exact absurd hvalue hnotValue
        | reference _ howned => exact ⟨howned, rfl⟩
      have howns := (h.collected.ownsReference_iff h.valid hr hp hside).mpr howned
      refine ⟨_, mem_columns_of_owns htable hfr hfind howns, ?_, ?_⟩
      · rw [referenceColumn?_eq hfind, if_pos howns]
      · rw [Relation.referenceColumn, hside]
        rfl

/-- **The rule of the script**: the column of a field is `NOT NULL` when the field is required or is
the primary key of its type. -/
theorem role_isNotNull_iff (hd : d.Valid) (ht : t ∈ d.objectTypes) (hf : f ∈ t.fields) {c : Column}
    (h : columnOf? d set t f = .ok (some c)) :
    c.role.isNotNull = true ↔ f.required = true ∨ t.primaryKey? = some f := by
  unfold columnOf? at h
  cases hkind : f.kind with
  | scalar s =>
      simp only [hkind, Except.map_eq_ok_iff, Option.some.injEq, exists_eq_right] at h
      simp only [scalarColumn, Field.scalar?, hkind, primaryKey?_name_eq_iff hd ht hf] at h
      split at h
      case isTrue hfirst =>
        obtain rfl := Except.ok.inj h
        simp [ColumnRole.isNotNull, hfirst]
      case isFalse hfirst =>
        obtain rfl := Except.ok.inj h
        simp [ColumnRole.isNotNull, hfirst]
  | enum =>
      have hfirst : t.primaryKey? ≠ some f := fun h => by simpa [hkind] using isId_of_primaryKey? h
      simp only [hkind, Except.map_eq_ok_iff, Option.some.injEq, exists_eq_right] at h
      unfold enumColumn at h
      cases henum : d.enumType? f.typeName with
      | none => simp [henum] at h
      | some e =>
          simp only [henum] at h
          obtain rfl := Except.ok.inj h
          simp [ColumnRole.isNotNull, hfirst]
  | relation =>
      have hfirst : t.primaryKey? ≠ some f := fun h => by simpa [hkind] using isId_of_primaryKey? h
      simp only [hkind] at h
      obtain ⟨r, side, -, hreference⟩ := of_referenceColumn?_eq_ok h
      split at hreference
      · obtain rfl := Option.some.inj hreference
        simp [ColumnRole.isNotNull, hfirst]
      · cases hreference

end Sql

namespace Api

/-! ### The output field of a field -/

/-- **The rule of the API**: a field that has a column is of a non-null type when it is required or
an identifier. -/
theorem isNonNull_iff {column : String} (hcolumn : d.HasColumn t f column) {o : OutputField}
    (h : outputField d set t f = .ok o) :
    o.type.isNonNull = true ↔ f.required = true ∨ f.isId = true := by
  have hvalueType : ∀ name, (valueField f name).type.isNonNull = true ↔
      f.required = true ∨ f.isId = true := by
    intro name
    cases hreq : f.required <;> cases hid : f.isId <;>
      simp [valueField, hreq, hid, required, nullable, TypeExpr.isNonNull]
  unfold outputField at h
  cases hkind : f.kind with
  | scalar s =>
      simp only [valueTypeName?, hkind] at h
      obtain rfl := Except.ok.inj h
      exact hvalueType _
  | enum =>
      simp only [valueTypeName?, hkind] at h
      obtain rfl := Except.ok.inj h
      exact hvalueType _
  | relation =>
      have hsingle : f.list = false := by
        cases hcolumn with
        | value hvalue => exact absurd hkind (Document.isValue_iff.mp hvalue)
        | reference _ howns => exact howns.1
      simp only [valueTypeName?, hkind] at h
      cases hfind : set.forField? t.name f.name with
      | none => simp [hfind] at h
      | some found =>
          simp only [hfind, Except.bind_eq_ok_iff, Except.pure_eq_ok_iff] at h
          obtain ⟨binding, -, rfl⟩ := h
          cases hreq : f.required <;>
            simp [relationType, hsingle, hreq, required, nullable, TypeExpr.isNonNull, Field.isId,
              hkind]

/-! ### Both rules -/

/-- **The API and the script agree about a field** of an accepted document with its own relations:
every field that has a column is compiled into a column of the table and a field of the output type,
and the type of this is non-null where that is `NOT NULL`, exactly when the field is no identifier
that is neither required nor the primary key. -/
theorem nullability_agrees_iff {objectTypes : List ObjectType} {enumTypes : List EnumType}
    (hd : Document.validated objectTypes enumTypes = .ok d) (h : RelationSet.resolve d = .ok set)
    (ht : t ∈ d.objectTypes) :
    ∃ table fields, Sql.tableOf d set t = .ok table ∧
      objectOf d set t = .ok (.object t.name fields) ∧
      ∀ f ∈ t.fields, ∀ column, d.HasColumn t f column →
        ∃ c ∈ table.columns, ∃ o ∈ fields,
          Sql.columnOf? d set t f = .ok (some c) ∧ c.name = column ∧
          outputField d set t f = .ok o ∧ o.name = f.name ∧
          ((o.type.isNonNull = true ↔ c.DeclaredNotNull) ↔
            (f.isId = true → f.required = true ∨ t.primaryKey? = some f)) := by
  have hset := RelationSet.resolves_of_resolve hd h
  obtain ⟨table, htable⟩ := Sql.exists_tableOf hset ht
  obtain ⟨fields, hobject⟩ := exists_objectOf hset ht
  obtain ⟨_, htype, houtputs⟩ := of_objectOf_eq_ok hobject
  obtain rfl : fields = _ := (ApiType.object.inj htype).2
  refine ⟨table, fields, htable, hobject, fun f hf column hcolumn => ?_⟩
  obtain ⟨c, hc, hcompiled, hname⟩ := Sql.exists_columnOf? hset ht hf htable hcolumn
  obtain ⟨o, ho, honame⟩ := exists_outputField hset ht hf
  refine ⟨c, hc, o, List.mem_of_mapM_eq_ok houtputs hf ho, hcompiled, hname, ho, honame, ?_⟩
  have hkey : t.primaryKey? = some f → f.isId = true := List.find?_some
  rw [isNonNull_iff hcolumn ho, Sql.Column.declaredNotNull_iff,
    Sql.role_isNotNull_iff hset.valid ht hf hcompiled]
  tauto

/-- The API and the script agree about the people of the directory. -/
theorem directory_nullability_agrees :
    ∃ table fields,
      Sql.tableOf .directory .directory Document.directory.objectTypes[1] = .ok table ∧
      objectOf .directory .directory Document.directory.objectTypes[1] =
        .ok (.object "Person" fields) ∧
      ∀ f ∈ Document.directory.objectTypes[1].fields, ∀ column,
        Document.directory.HasColumn Document.directory.objectTypes[1] f column →
        ∃ c ∈ table.columns, ∃ o ∈ fields, o.name = f.name ∧ c.name = column ∧
          (o.type.isNonNull = true ↔ c.DeclaredNotNull) := by
  have hd : Document.validated Document.directory.objectTypes Document.directory.enumTypes =
      .ok .directory := by decide +kernel
  have h : RelationSet.resolve .directory = .ok .directory := by decide +kernel
  obtain ⟨table, fields, htable, hobject, hfields⟩ :=
    nullability_agrees_iff hd h (t := Document.directory.objectTypes[1]) (by decide)
  refine ⟨table, fields, htable, hobject, fun f hf column hcolumn => ?_⟩
  obtain ⟨c, hc, o, ho, -, hname, -, honame, hagree⟩ := hfields f hf column hcolumn
  refine ⟨c, hc, o, ho, honame, hname, hagree.mpr ?_⟩
  have hids : ∀ f ∈ Document.directory.objectTypes[1].fields,
      f.isId = true → f.required = true := by decide
  exact fun hid => Or.inl (hids f hf hid)

end Api

/-! ### Invoices -/

/-- Invoices with an optional number of another system. -/
def Document.invoices : Document where
  objectTypes :=
    [ .of "Invoice"
        [ { name := "id", typeName := "ID", kind := .scalar .id, required := true },
          { name := "external", typeName := "ID", kind := .scalar .id } ] {} ]
  enumTypes := []

/-- The other number of an invoice may be missing from the table but not from the API, although the
document is accepted and resolved. -/
theorem Api.invoices_disagree :
    Document.validated Document.invoices.objectTypes [] = .ok .invoices ∧
      RelationSet.resolve .invoices = .ok ⟨[]⟩ ∧
      ∃ t ∈ Document.invoices.objectTypes, ∃ f ∈ t.fields, f.isScalar = true ∧ ∃ c o,
        Sql.columnOf? .invoices ⟨[]⟩ t f = .ok (some c) ∧
        outputField .invoices ⟨[]⟩ t f = .ok o ∧
        o.type.isNonNull = true ∧ ¬ c.DeclaredNotNull := by
  refine ⟨by decide +kernel, by decide +kernel, Document.invoices.objectTypes[0], by decide,
    Document.invoices.objectTypes[0].fields[1], by decide, by decide, _, _, rfl, rfl, by decide, ?_⟩
  rw [Sql.Column.declaredNotNull_iff]
  decide

end DataModel
