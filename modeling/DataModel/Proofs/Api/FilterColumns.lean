import DataModel.Proofs.Api.FieldNames
import DataModel.Proofs.Api.FilterMeaning
import DataModel.Proofs.Api.Orders
import DataModel.Proofs.Sql.Columns

/-!
# Columns of filters and orders

The database is asked for rows by filters and orders that are read off the input of a request, and
its tables are laid out by another part of the library. What the two share is the names of columns.
This module says that no request leads outside the table: a column in a filter comes from an entry of
the input, at whatever depth it stands, and an entry names a scalar or enum field, or a constraint
over such fields.

There is one way out. In a lookup of a single row every field counts as a column, also a relation
field, whose column has another name if it has any. Of the keys that the input for single rows offers
only the label of a constraint can be the name of a relation field, and such an input is refused when
the API is generated.

## Main results

* `InputForm.exists_reaches_of_mem_columns`: every column of a filter comes from an entry.
* `Sql.declares_of_isValue`: the table of a type declares the columns of its scalar and enum fields.
* `requests_stay_inside_table`: **filters and orders are over columns of the table**, unless a lookup
  has the name of a relation field for a key.
-/

namespace DataModel

namespace Api

/-! ### The columns of a filter -/

namespace Filter

mutual

/-- The columns that a filter compares. -/
def columns : Filter → List String
  | .condition column _ _ => [column]
  | .and clauses => clauseColumns clauses
  | .or clauses => clauseColumns clauses
  | .not clauses => clauseColumns clauses
termination_by structural f => f

/-- The columns that the clauses compare. -/
def clauseColumns : List Filter → List String
  | [] => []
  | f :: rest => f.columns ++ clauseColumns rest
termination_by structural clauses => clauses

end

variable {fs : List Filter} {column : String}

/-- A column of clauses is one of a clause. -/
theorem mem_clauseColumns_iff : column ∈ clauseColumns fs ↔ ∃ f ∈ fs, column ∈ f.columns := by
  induction fs with
  | nil => simp [clauseColumns]
  | cons f rest ih => simp [clauseColumns, ih]

/-- A column of a conjunction is one of a clause, also where a single clause stands for itself. -/
theorem mem_columns_all_iff : column ∈ (all fs).columns ↔ ∃ f ∈ fs, column ∈ f.columns := by
  unfold all
  split
  case h_1 clause => simp
  case h_2 => rw [columns, mem_clauseColumns_iff]

end Filter

/-! ### From entries to columns -/

namespace InputForm

/-- The value has an entry that is not null and does not combine: among its own entries, or among
those of an object under a key that combines, at any depth. -/
inductive Reaches (form : InputForm) : Value → String → Value → Prop
  | here {entries : List (String × Value)} {e : String × Value} :
      e ∈ entries → e.2 ≠ .null → form.combinator? e.1 = none →
      Reaches form (.object entries) e.1 e.2
  | nested {entries : List (String × Value)} {e : String × Value} {v : Value} {key : String}
      {w : Value} :
      e ∈ entries → e.2 ≠ .null → form.combinator? e.1 ≠ none → v ∈ e.2.nested →
      Reaches form v key w → Reaches form (.object entries) key w

/-- Combining filters makes no new columns. -/
def KeepsColumns (form : InputForm) : Prop :=
  ∀ key combine, form.combinator? key = some combine →
    ∀ fs, (combine fs).columns = Filter.clauseColumns fs

variable {form : InputForm}

/-- **Every column of a filter comes from an entry** of the input that it was read off. -/
theorem exists_reaches_of_mem_columns (hform : form.KeepsColumns) {v : Value} {column : String} :
    ∀ {f : Filter}, form.item v = .ok f → column ∈ f.columns →
      ∃ key w g, form.Reaches v key w ∧ form.leaf key w = .ok g ∧ column ∈ g.columns := by
  induction v using Value.inductionOnNested with
  | other v hv =>
      intro f h
      cases v with
      | object entries => cases hv
      | _ => cases h
  | object entries ih =>
      intro f h hcolumn
      obtain ⟨cs, hcs, rfl, -⟩ := of_item_object_eq_ok h
      obtain ⟨c, hc, hcolumn⟩ := Filter.mem_columns_all_iff.mp hcolumn
      obtain ⟨e, he, hclause⟩ := List.exists_mem_of_mapM_eq_ok hcs hc
      obtain ⟨he, hnull⟩ := List.mem_filter.mp he
      have hvalue : e.2 ≠ .null := Value.isNull_eq_false_iff.mp (by simpa using hnull)
      unfold clause at hclause
      cases hcombine : form.combinator? e.1 with
      | none =>
          rw [hcombine] at hclause
          exact ⟨e.1, e.2, c, .here he hvalue hcombine, hclause, hcolumn⟩
      | some combine =>
          -- the column comes from one of the objects under the key
          rw [hcombine] at hclause
          obtain ⟨fs, hfs, rfl⟩ := Except.map_eq_ok_iff.mp hclause
          rw [hform e.1 combine hcombine, Filter.mem_clauseColumns_iff] at hcolumn
          obtain ⟨g, hg, hcolumn⟩ := hcolumn
          obtain ⟨v, hv, hitem⟩ := List.exists_mem_of_mapM_eq_ok (of_nested_eq_ok hfs) hg
          obtain ⟨key, w, g', hreaches, hleaf, hcolumn⟩ := ih e he v hv hitem hcolumn
          exact ⟨key, w, g', .nested he hvalue (by simp [hcombine]) hv hreaches, hleaf, hcolumn⟩

end InputForm

section Forms

variable {t : ObjectType}

/-- The input for lists makes no new columns. -/
theorem whereForm_keepsColumns : (whereForm t).KeepsColumns := by
  intro key combine h fs
  simp only [whereForm] at h
  split_ifs at h <;> obtain rfl := Option.some.inj h <;> rw [Filter.columns]

/-- The input for single rows makes no new columns. -/
theorem uniqueForm_keepsColumns : (uniqueForm t).KeepsColumns := by
  intro key combine h fs
  simp only [uniqueForm] at h
  split_ifs at h
  obtain rfl := Option.some.inj h
  rw [Filter.columns]

/-- An entry of the input for lists compares the column of a scalar or enum field. -/
theorem exists_field_of_whereForm_leaf {key : String} {v : Value} {f : Filter}
    (h : (whereForm t).leaf key v = .ok f) :
    ∃ g ∈ t.fields, g.isValue = true ∧ f.columns = [g.name] := by
  simp only [whereForm] at h
  split at h
  case h_1 g o hread =>
    obtain rfl := Except.ok.inj h
    obtain ⟨hfound, hvalue⟩ :=
      Option.filter_eq_some_iff.mp (filterKey?_eq_some_iff.mp hread).spells.field
    exact ⟨g, List.mem_of_find?_eq_some hfound, hvalue, by rw [Filter.columns]⟩
  case h_2 => cases h

/-- An entry of the input for single rows compares the field that is its key, or the fields of a
constraint. -/
theorem of_uniqueForm_leaf {key : String} {v : Value} {f : Filter}
    (h : (uniqueForm t).leaf key v = .ok f) {column : String} (hcolumn : column ∈ f.columns) :
    (column = key ∧ ∃ g ∈ t.fields, g.name = key) ∨
      ∃ c ∈ t.options.uniqueConstraints, column ∈ c.fields := by
  simp only [uniqueForm] at h
  split at h
  case isTrue hfield =>
    obtain rfl := Except.ok.inj h
    obtain ⟨g, hg⟩ := Option.isSome_iff_exists.mp hfield
    refine .inl ⟨?_, g, List.mem_of_find?_eq_some hg, ObjectType.name_of_field? hg⟩
    simpa [Filter.eq, Filter.columns] using hcolumn
  case isFalse =>
    split at h
    case h_1 => cases h
    case h_2 c hc =>
      split at h
      case h_1 => cases h
      case h_2 parts =>
        obtain ⟨fs, hfs, rfl⟩ := Except.map_eq_ok_iff.mp h
        rw [Filter.columns, Filter.mem_clauseColumns_iff] at hcolumn
        obtain ⟨g, hg, hcolumn⟩ := hcolumn
        obtain ⟨name, hname, hcondition⟩ := List.exists_mem_of_mapM_eq_ok hfs hg
        refine .inr ⟨c, List.mem_of_find?_eq_some hc, ?_⟩
        split at hcondition
        case h_1 =>
          obtain rfl := Except.ok.inj hcondition
          obtain rfl : column = name := by simpa [Filter.eq, Filter.columns] using hcolumn
          exact hname
        case h_2 => cases hcondition

end Forms

/-! ### Orders -/

/-- The value is an item of the enum of orders, as an enum literal or as a string. -/
def IsOrderValue (t : ObjectType) (v : Value) : Prop :=
  ∃ item ∈ orderItems t, v = .enum item ∨ v = .string item

/-- An order value is read as the column of a scalar field. -/
theorem exists_orderItem {t : ObjectType} {v : Value} (h : IsOrderValue t v) :
    ∃ o, orderItem v = .ok o ∧ ∃ f ∈ t.scalarFields, o.column = f.name := by
  obtain ⟨item, hitem, hv⟩ := h
  rw [orderItems_eq] at hitem
  obtain ⟨o, ho, rfl⟩ := List.mem_map.mp hitem
  have hnames : NamesOrder v o := by
    rcases hv with rfl | rfl
    · exact .enum o
    · exact .string o
  exact ⟨o, orderItem_eq_ok_iff.mpr hnames, mem_ordersOf_iff.mp ho⟩

/-! ### The table -/

end Api

/-- The table of a type declares a column for every scalar and enum field, under its name. -/
theorem Sql.declares_of_isValue {d : Document} {set : RelationSet} {t : ObjectType} {s : Statement}
    (hs : tableOf d set t = .ok s) {f : Field} (hf : f ∈ t.fields) (hvalue : f.isValue = true) :
    s.Declares (tableName t.name) f.name := by
  have hname : f.name ∈ s.columns.map (·.name) := by
    rw [columnNames_eq hs]
    exact List.mem_append_left _ (List.mem_filterMap.mpr
      ⟨f, t.fields_perm.mem_iff.mpr hf, if_pos hvalue⟩)
  obtain ⟨-, -, -, -, -, -, hcreate, -⟩ := of_tableOf_eq_ok hs
  exact ⟨hcreate, List.mem_map.mp hname⟩

namespace Api

variable {d : Document} {set : RelationSet} {t : ObjectType}

/-- The name of a relation field. -/
def NamesRelation (t : ObjectType) (key : String) : Prop := ∃ f ∈ t.relationFields, f.name = key

instance (t : ObjectType) (key : String) : Decidable (NamesRelation t key) :=
  inferInstanceAs (Decidable (∃ f ∈ t.relationFields, f.name = key))

/-- Among the fields of a valid document a scalar or enum field shares its name with no relation
field. -/
theorem not_namesRelation_of_isValue (hd : d.Valid) (ht : t ∈ d.objectTypes) {f : Field}
    (hf : f ∈ t.fields) (hvalue : f.isValue = true) : ¬ NamesRelation t f.name := by
  rintro ⟨g, hg, hname⟩
  obtain ⟨hgf, hkind⟩ := Document.mem_relationFields_type.mp hg
  obtain rfl := List.eq_of_map_nodup (hd.fieldNames_nodup t ht) hgf hf hname
  exact Document.isValue_iff.mp hvalue hkind

/-- Of the keys for single rows only the label of a constraint over several fields can be the name of
a relation field. -/
theorem exists_label_of_namesRelation {objectTypes : List ObjectType} {enumTypes : List EnumType}
    (hd : Document.validated objectTypes enumTypes = .ok d) (ht : t ∈ d.objectTypes) {key : String}
    (hkey : key ∈ lookupKeys t) (hrelation : NamesRelation t key) :
    ∃ c ∈ t.options.uniqueConstraints, c.fields.length ≠ 1 ∧ c.label = key := by
  have hvalid := Document.valid_of_validated hd
  rcases List.mem_append.mp hkey with hprimary | hconstraint
  · obtain ⟨f, hf, rfl⟩ : ∃ f, t.primaryKey? = some f ∧ f.name = key := by simpa using hprimary
    have hid : f.isId = true := List.find?_some hf
    have hvalue : f.isValue = true :=
      Document.isValue_iff.mpr (by simp [show f.kind = .scalar .id by simpa [Field.isId] using hid])
    exact absurd hrelation
      (not_namesRelation_of_isValue hvalid ht (List.mem_of_find?_eq_some hf) hvalue)
  · obtain ⟨c, hc, rfl⟩ := List.mem_map.mp hconstraint
    rcases constraintKey_cases c with hsingle | ⟨hlength, hlabel⟩
    · obtain ⟨f, hf, hvalue⟩ := Document.exists_constraintField_of_validated hd ht hc
        (hsingle ▸ List.mem_singleton_self _)
      rw [← ObjectType.name_of_field? hf] at hrelation
      exact absurd hrelation
        (not_namesRelation_of_isValue hvalid ht (List.mem_of_find?_eq_some hf) hvalue)
    · exact ⟨c, hc, hlength, hlabel.symm⟩

/-- Where the input for single rows is generated, none of its keys is the name of a relation field. -/
theorem not_namesRelation_of_uniqueInputs {objectTypes : List ObjectType}
    {enumTypes : List EnumType} (hd : Document.validated objectTypes enumTypes = .ok d)
    (ht : t ∈ d.objectTypes) {types : List ApiType} (htypes : uniqueInputs t = .ok types)
    {key : String} (hkey : key ∈ lookupKeys t) : ¬ NamesRelation t key := by
  intro hrelation
  have hends : (uniqueInputs t).Ends
      (fun _ => "_or" ∉ lookupKeys t ∧ ∀ c ∈ t.options.uniqueConstraints, ConstraintClear t c)
      fun _ => True :=
    uniqueInputs_ends (Document.constraintFields_found_of_validated hd t ht) (by simp) (by simp)
      (by simp)
  obtain ⟨c, hc, hlength, rfl⟩ := exists_label_of_namesRelation hd ht hkey hrelation
  have hfree := ((hends.1 types htypes).2 c hc).label hlength
  obtain ⟨f, hf, hname⟩ := hrelation
  have hnone := List.find?_name_eq_none_iff.mp hfree
  exact hnone f (Document.mem_relationFields_type.mp hf).1 hname

/-- **Filters and orders are over columns of the table.** For a type of an accepted document, the
table exists when the document is resolved, and whatever relations it is laid out with, it declares
every column

* in the filter of an input for lists,
* in the filter of a lookup of a single row in which no key, at any depth, is the name of a relation
  field, and
* in the order of a list of order values, which is always read.

Of the keys that lookups are made of only the label of a constraint over several fields can be the
name of a relation field, and none is where the input for single rows is generated. -/
theorem requests_stay_inside_table {objectTypes : List ObjectType} {enumTypes : List EnumType}
    (hd : Document.validated objectTypes enumTypes = .ok d) (ht : t ∈ d.objectTypes) :
    (∀ set, RelationSet.resolve d = .ok set → ∃ s, Sql.tableOf d set t = .ok s) ∧
    (∀ set s, Sql.tableOf d set t = .ok s →
      (∀ v f, whereFilter t v = .ok f →
        ∀ column ∈ f.columns, s.Declares (tableName t.name) column) ∧
      (∀ v f, (∀ key w, (uniqueForm t).Reaches v key w → ¬ NamesRelation t key) →
        uniqueFilter t v = .ok f → ∀ column ∈ f.columns, s.Declares (tableName t.name) column) ∧
      (∀ items, (∀ v ∈ items, IsOrderValue t v) → ∃ orders, orderBy (.list items) = .ok orders ∧
        ∀ o ∈ orders, s.Declares (tableName t.name) o.column)) ∧
    ∀ key ∈ lookupKeys t,
      (NamesRelation t key →
        ∃ c ∈ t.options.uniqueConstraints, c.fields.length ≠ 1 ∧ c.label = key) ∧
      ∀ types, uniqueInputs t = .ok types → ¬ NamesRelation t key := by
  refine ⟨fun set h => Sql.exists_tableOf (RelationSet.resolves_of_resolve hd h) ht,
    fun set s hs => ⟨?lists, ?rows, ?orders⟩, fun key hkey => ?keys⟩
  case lists =>
    intro v f h column hcolumn
    obtain ⟨key, w, g, -, hleaf, hcolumn⟩ :=
      InputForm.exists_reaches_of_mem_columns whereForm_keepsColumns h hcolumn
    obtain ⟨field, hfield, hvalue, hcolumns⟩ := exists_field_of_whereForm_leaf hleaf
    obtain rfl : column = field.name := by simpa [hcolumns] using hcolumn
    exact Sql.declares_of_isValue hs hfield hvalue
  case rows =>
    intro v f hkeys h column hcolumn
    obtain ⟨key, w, g, hreaches, hleaf, hcolumn⟩ :=
      InputForm.exists_reaches_of_mem_columns uniqueForm_keepsColumns h hcolumn
    rcases of_uniqueForm_leaf hleaf hcolumn with ⟨rfl, field, hfield, hname⟩ | ⟨c, hc, hname⟩
    · have hvalue : field.isValue = true := by
        refine Document.isValue_iff.mpr fun hkind => hkeys _ w hreaches ⟨field, ?_, hname⟩
        exact Document.mem_relationFields_type.mpr ⟨hfield, hkind⟩
      exact hname ▸ Sql.declares_of_isValue hs hfield hvalue
    · obtain ⟨field, hfield, hvalue⟩ := Document.exists_constraintField_of_validated hd ht hc hname
      rw [← ObjectType.name_of_field? hfield]
      exact Sql.declares_of_isValue hs (List.mem_of_find?_eq_some hfield) hvalue
  case orders =>
    intro items hitems
    obtain ⟨orders, horders⟩ := List.mapM_succeeds fun v hv => by
      obtain ⟨o, ho, -⟩ := exists_orderItem (hitems v hv)
      exact ⟨o, ho⟩
    refine ⟨orders, horders, fun o ho => ?_⟩
    obtain ⟨v, hv, hread⟩ := List.exists_mem_of_mapM_eq_ok horders ho
    obtain ⟨o', ho', f, hf, hcolumn⟩ := exists_orderItem (hitems v hv)
    obtain rfl := Except.ok.inj (hread.symm.trans ho')
    have hscalar := List.mem_filter.mp hf
    rw [hcolumn]
    exact Sql.declares_of_isValue hs hscalar.1 (by simp [Field.isValue, hscalar.2])
  case keys =>
    exact ⟨exists_label_of_namesRelation hd ht hkey,
      fun types htypes => not_namesRelation_of_uniqueInputs hd ht htypes hkey⟩

/-- The requests for the people of the directory stay inside their table, a lookup by first and last
name among them. -/
theorem directory_requests_inside :
    ∃ t ∈ Document.directory.objectTypes, t.name = "Person" ∧
      ∃ s, Sql.tableOf .directory .directory t = .ok s ∧
        ∀ f, uniqueFilter t (.object [("first_last",
            .object [("first", .string "Ada"), ("last", .string "Lovelace")])]) = .ok f →
          ∀ column ∈ f.columns, s.Declares (tableName t.name) column := by
  have hd : Document.validated Document.directory.objectTypes Document.directory.enumTypes =
      .ok .directory := by decide +kernel
  have h : RelationSet.resolve .directory = .ok .directory := by decide +kernel
  have ht : Document.directory.objectTypes[1] ∈ Document.directory.objectTypes := by decide
  obtain ⟨htable, hrequests, -⟩ := requests_stay_inside_table hd ht
  obtain ⟨s, hs⟩ := htable .directory h
  refine ⟨_, ht, rfl, s, hs, fun f hf => (hrequests .directory s hs).2.1 _ f ?_ hf⟩
  -- the one key is the label of the constraint, and the one relation field is the team
  intro key w hreaches
  cases hreaches with
  | here he _ _ =>
      obtain rfl := List.mem_singleton.mp he
      decide
  | nested he _ hcombine _ _ =>
      obtain rfl := List.mem_singleton.mp he
      exact absurd rfl hcombine

end Api

/-! ### A label that is the name of a relation field -/

/-- Employees in teams, with a badge number for each site. The constraint on the two numbers is called
like the relation field. -/
def Document.staff : Document where
  objectTypes :=
    [ .of "Team"
        [ { name := "id", typeName := "ID", kind := .scalar .id, required := true },
          { name := "members", typeName := "Employee", kind := .relation, list := true } ] {},
      .of "Employee"
        [ { name := "id", typeName := "ID", kind := .scalar .id, required := true },
          { name := "badge", typeName := "Int", kind := .scalar .int },
          { name := "site", typeName := "Int", kind := .scalar .int },
          { name := "team", typeName := "Team", kind := .relation } ]
        { uniqueConstraints := [{ name := "team", fields := ["badge", "site"] }] } ]
  enumTypes := []

/-- Employees are in one team, and a team has many. -/
def RelationSet.staff : RelationSet where
  relations := [⟨⟨"Team", "members", true, false⟩, ⟨"Employee", "team", false, false⟩, none⟩]

/-- An employee by badge and site, under the label of the constraint. -/
def Api.employeeByBadge : Api.Value :=
  .object [("team", .object [("badge", .int 1), ("site", .int 2)])]

/-- A lookup of an employee under the label of the constraint is read as one under the relation field,
and so asks for a column that the table does not declare. -/
theorem Api.staff_lookup_outside :
    Document.validated Document.staff.objectTypes Document.staff.enumTypes = .ok .staff ∧
      RelationSet.resolve .staff = .ok .staff ∧
      ∃ t ∈ Document.staff.objectTypes,
        (∀ key w, (uniqueForm t).Reaches employeeByBadge key w → key ∈ lookupKeys t) ∧
          ∃ s f, Sql.tableOf .staff .staff t = .ok s ∧ uniqueFilter t employeeByBadge = .ok f ∧
            ∃ column ∈ f.columns, ¬ s.Declares (tableName t.name) column := by
  refine ⟨by decide +kernel, by decide +kernel, Document.staff.objectTypes[1], by decide, ?keys,
    _, _, rfl, rfl, "team", ?column, ?undeclared⟩
  case keys =>
    intro key w hreaches
    cases hreaches with
    | here he _ _ =>
        obtain rfl := List.mem_singleton.mp he
        decide
    | nested he _ hcombine _ _ =>
        obtain rfl := List.mem_singleton.mp he
        exact absurd rfl hcombine
  case column => decide
  case undeclared =>
    rintro ⟨-, hcolumn⟩
    revert hcolumn
    decide

end DataModel
