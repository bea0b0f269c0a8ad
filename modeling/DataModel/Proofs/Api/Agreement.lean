import DataModel.Proofs.Api.Binding
import DataModel.Proofs.Sql.Script

/-!
# Bindings and statements agree

The API and the statements are generated separately from the same relations. A binding that names a
column which its table does not declare, or the column of the wrong side, would only be noticed when
a query runs. It cannot happen: what a binding names is declared by the script, and the foreign key
on it refers to where the binding looks.

## Main results

* `Binding.Agrees`: what it means for a binding to agree with the statements.
* `Binding.of_agrees`: **every relation field has a binding that agrees with the statements**, and
  the binding yields a list exactly when the field is declared as one.
-/

namespace DataModel

namespace Api.Binding

open Sql

/-- Whether a field with the binding stands for a list of rows. -/
def yieldsList : Binding → Bool
  | .reference _ _ => false
  | .reverse _ _ _ many => many
  | .junction .. => true

/-- A binding from rows of `source` to rows of `target` agrees with a script.

* A reference follows a column that the table of `source` declares and that refers to the primary
  key of the table of `target`.
* A reverse look-up asks the table of `target` for a column that it declares and that refers to the
  primary key of the table of `source`.
* A junction reads a table of the script with two columns, one of which refers to the primary key of
  `source` and the other to that of `target`. -/
def Agrees (d : Document) (set : RelationSet) (script : List Statement)
    (source target : ObjectType) : Binding → Prop
  | .reference targetTable column =>
    targetTable = tableName target.name ∧
    (∃ s ∈ script, tableOf d set source = .ok s ∧ s.Declares (tableName source.name) column) ∧
    ∃ key, target.primaryKey? = some key ∧
      ∃ s ∈ script, s.AddsReference (tableName source.name) column targetTable key.name
  | .reverse targetTable column primaryKey _ =>
    (∃ key, source.primaryKey? = some key ∧ primaryKey = key.name) ∧
    (∃ s ∈ script, tableOf d set target = .ok s ∧ s.Declares targetTable column) ∧
    ∃ s ∈ script, s.AddsReference targetTable column (tableName source.name) primaryKey
  | .junction linkTable ownColumn otherColumn primaryKey targetTable targetPrimaryKey =>
    targetTable = tableName target.name ∧
    (∃ key, source.primaryKey? = some key ∧ primaryKey = key.name) ∧
    (∃ key, target.primaryKey? = some key ∧ targetPrimaryKey = key.name) ∧
    ∃ s ∈ script, s.Declares linkTable ownColumn ∧ s.Declares linkTable otherColumn ∧
      s.HoldsReference linkTable ownColumn (tableName source.name) primaryKey ∧
      s.HoldsReference linkTable otherColumn targetTable targetPrimaryKey

variable {d : Document} {set : RelationSet} {script : List Statement} {r : Relation} {side : Side}
  {p q : Place}

/-- The table of a type declares the reference column of a field that owns one. -/
theorem declares_referenceColumn (h : set.Resolves d) (hscript : statements d set = .ok script)
    (hp : p ∈ d.relationFields) (hr : r ∈ set.relations) (hside : r.onSide side = p.toEnd)
    (howns : r.ownsReference side = true) :
    ∃ s ∈ script, tableOf d set p.1 = .ok s ∧
      s.Declares (tableName p.1.name) (referenceColumn p.2.name) := by
  obtain ⟨ht, hf⟩ := Document.mem_relationFields.mp hp
  obtain ⟨s, hs⟩ := exists_tableOf h ht
  have hfind := (h.collected.forField?_place h.valid hp).mpr ⟨hr, hside⟩
  obtain ⟨-, -, -, -, -, -, hcreate, -⟩ := of_tableOf_eq_ok hs
  refine ⟨s, mem_script_of_tableOf hscript ht hs, hs, hcreate, _,
    mem_columns_of_owns hs hf hfind howns, ?_⟩
  simp only [Relation.referenceColumn, hside]
  rfl

/-- The script adds the foreign key of the reference column of a field that owns one. -/
theorem addsReference_of_owns (h : set.Resolves d) (hscript : statements d set = .ok script)
    (hq : q ∈ d.relationFields) (hr : r ∈ set.relations) (hside : r.onSide side = p.toEnd)
    (hopp : r.onSide side.opposite = q.toEnd) (howns : r.ownsReference side = true) {key : Field}
    (hkey : q.1.primaryKey? = some key) :
    ∃ s ∈ script, s.AddsReference (tableName p.1.name) (referenceColumn p.2.name)
      (tableName q.1.name) key.name := by
  have hs := foreignKeyOf_eq_ok h hside hopp hq hkey
  exact ⟨_, mem_script_of_owns h hscript hr howns hs, _, rfl⟩

/-- The script creates the junction table of a many-to-many relation, in which the column of each
side refers to the primary key of its type. -/
theorem exists_junction (h : set.Resolves d) (hscript : statements d set = .ok script)
    (hr : r ∈ set.relations) (hcard : r.cardinality = .manyToMany) :
    ∃ s ∈ script, ∀ side, s.Declares r.name (r.junctionColumn side) ∧
      ∀ p : Place, p ∈ d.relationFields → r.onSide side = p.toEnd → ∀ key,
        p.1.primaryKey? = some key →
        s.HoldsReference r.name (r.junctionColumn side) (tableName p.1.name) key.name := by
  obtain ⟨a, ha, haend⟩ := h.collected.exists_place hr .a
  obtain ⟨b, hb, hbend⟩ := h.collected.exists_place hr .b
  obtain ⟨akey, hakey, -⟩ := h.exists_key ha
  obtain ⟨bkey, hbkey, -⟩ := h.exists_key hb
  have hs := junctionOf_eq_ok h haend hbend ha hb hakey hbkey
  refine ⟨_, mem_script_of_manyToMany hscript hr hcard hs, ?_⟩
  intro side
  refine ⟨⟨⟨_, rfl⟩, ?_⟩, fun p hp hside key hkey => ?_⟩
  · cases side <;> simp [Statement.columns]
  · cases side with
    | a =>
        obtain rfl := (h.valid.toEnd_inj ha hp).mp (haend.symm.trans hside)
        obtain rfl := Option.some.inj (hakey.symm.trans hkey)
        exact ⟨_, List.mem_cons_self⟩
    | b =>
        obtain rfl := (h.valid.toEnd_inj hb hp).mp (hbend.symm.trans hside)
        obtain rfl := Option.some.inj (hbkey.symm.trans hkey)
        exact ⟨_, List.mem_cons_of_mem _ List.mem_cons_self⟩

/-- The binding of a field agrees with the statements, whatever its kind. -/
theorem exists_agreeing (h : set.Resolves d) (hscript : statements d set = .ok script)
    (hp : p ∈ d.relationFields) (hq : q ∈ d.relationFields) (hr : r ∈ set.relations)
    (hside : r.onSide side = p.toEnd) (hopp : r.onSide side.opposite = q.toEnd) :
    ∃ binding, Binding.of d r side = .ok binding ∧ binding.Agrees d set script p.1 q.1 ∧
      (binding.yieldsList = true ↔ p.2.list = true) := by
  obtain ⟨pkey, hpkey, hplookup⟩ := h.exists_key hp
  obtain ⟨qkey, hqkey, hqlookup⟩ := h.exists_key hq
  by_cases hcard : r.cardinality = .manyToMany
  · refine ⟨_, of_manyToMany hside hopp hcard hplookup hqlookup, ?_, ?_⟩
    · obtain ⟨s, hs, hsides⟩ := exists_junction h hscript hr hcard
      obtain ⟨hown, hownkey⟩ := hsides side
      obtain ⟨hother, hotherkey⟩ := hsides side.opposite
      exact ⟨rfl, ⟨pkey, hpkey, rfl⟩, ⟨qkey, hqkey, rfl⟩, s, hs, hown, hother,
        hownkey p hp hside pkey hpkey, hotherkey q hq hopp qkey hqkey⟩
    · have hlists := RelationSet.cardinality_eq_manyToMany_iff.mp hcard
      have hlist : (r.onSide side).list = true := by
        cases side with
        | a => exact hlists.1
        | b => exact hlists.2
      rw [hside] at hlist
      exact iff_of_true rfl hlist
  · by_cases howns : r.ownsReference side = true
    · refine ⟨_, of_owns hside hopp howns, ⟨rfl, ?_, qkey, hqkey, ?_⟩, ?_⟩
      · exact declares_referenceColumn h hscript hp hr hside howns
      · exact addsReference_of_owns h hscript hq hr hside hopp howns hqkey
      · have hlist := (RelationSet.ownsReference_iff.mp howns).1
        rw [hside] at hlist
        exact iff_of_false Bool.false_ne_true (Bool.eq_false_iff.mp hlist)
    · have hother := RelationSet.ownsReference_opposite hcard howns
      have hback : r.onSide side.opposite.opposite = p.toEnd := by rwa [side.opposite_opposite]
      refine ⟨_, of_not_owns hside hopp hcard howns hplookup, ⟨⟨pkey, hpkey, rfl⟩, ?_, ?_⟩, Iff.rfl⟩
      · exact declares_referenceColumn h hscript hq hr hopp hother
      · exact addsReference_of_owns h hscript hp hr hopp hback hother hpkey

/-- **Every relation field has a binding that agrees with the statements**, which exist, and the
binding yields a list exactly when the field is declared as one. -/
theorem of_agrees {objectTypes : List ObjectType} {enumTypes : List EnumType}
    (hd : Document.validated objectTypes enumTypes = .ok d) (h : RelationSet.resolve d = .ok set) :
    ∃ script, statements d set = .ok script ∧
      ∀ source ∈ d.objectTypes, ∀ f ∈ source.relationFields, ∃ target r side binding,
        d.objectType? f.typeName = some target ∧
        set.forField? source.name f.name = some (r, side) ∧
        Binding.of d r side = .ok binding ∧
        binding.Agrees d set script source target ∧
        (binding.yieldsList = true ↔ f.list = true) := by
  have hset := RelationSet.resolves_of_resolve hd h
  obtain ⟨script, hscript⟩ := exists_statements hset
  refine ⟨script, hscript, fun source hsource f hf => ?_⟩
  have hp : (source, f) ∈ d.relationFields := Document.mem_relationFields.mpr ⟨hsource, hf⟩
  obtain ⟨r, side, q, hfind, hr, hside, hopp, hpq⟩ := hset.exists_relation hp
  obtain ⟨binding, hbinding, hagrees, hlist⟩ :=
    exists_agreeing hset hscript hp hpq.mem hr hside hopp
  have htarget : d.objectType? f.typeName = some q.1 := hset.valid.objectType?_eq_some_iff.mpr
    ⟨(Document.mem_relationFields.mp hpq.mem).1, hpq.onTarget⟩
  exact ⟨q.1, r, side, binding, htarget, hfind, hbinding, hagrees, hlist⟩

/-- The bindings of the library agree with its statements. -/
theorem library_agrees :
    ∃ script, statements .library .library = .ok script ∧
      ∀ source ∈ Document.library.objectTypes, ∀ f ∈ source.relationFields, ∃ target r side binding,
        Document.library.objectType? f.typeName = some target ∧
        RelationSet.library.forField? source.name f.name = some (r, side) ∧
        Binding.of .library r side = .ok binding ∧
        binding.Agrees .library .library script source target ∧
        (binding.yieldsList = true ↔ f.list = true) := by
  have hd : Document.validated Document.library.objectTypes [] = .ok .library := by decide +kernel
  have h : RelationSet.resolve .library = .ok .library := by decide +kernel
  exact of_agrees hd h

end Api.Binding

end DataModel
