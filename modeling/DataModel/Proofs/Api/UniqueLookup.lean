import DataModel.Proofs.Api.FieldNames
import DataModel.Proofs.Api.FilterMeaning
import DataModel.Proofs.Api.Service
import DataModel.Proofs.Sql.References

/-!
# Lookups of single rows

The input for single rows and the table of a type take their keys from the same declarations: the
primary key and the constraints. This module compares the two. A row that a lookup finds has the
values that the lookup gives for some key of the table, and all of that key, so two rows that are
found agree on it, which the table does not admit.

## Convention

Two rows agree on columns when both have values there that are the same and not null, as uniqueness
constraints take it. Which values are the same is left to the database, as in `Reading`.

## Main results

* `Sql.mem_keys_iff`: the keys that the table of a type declares.
* `LooksUp.exists_agreeOn`: two rows for which an entry of a lookup holds agree on a key.
* `uniqueFilter_selects_at_most_one`: **a lookup of a single row identifies at most one row.**
-/

namespace List

/-- Where each two entries are told apart by `R`, but no two are, there is one entry at most. -/
theorem Pairwise.length_le_one {α : Type} {R : α → α → Prop} {l : List α} (h : l.Pairwise R)
    (hnone : ∀ a ∈ l, ∀ b ∈ l, ¬ R a b) : l.length ≤ 1 := by
  match l with
  | [] => exact Nat.zero_le 1
  | [_] => exact Nat.le_refl 1
  | a :: b :: _ =>
      have hab : R a b := rel_of_pairwise_cons h mem_cons_self
      exact absurd hab (hnone a mem_cons_self b (mem_cons_of_mem a mem_cons_self))

end List

namespace DataModel

/-! ### The keys of a table -/

namespace Sql

namespace Statement

/-- The columns of each uniqueness constraint that a statement declares. -/
def uniqueColumns : Statement → List (List String)
  | .createTable _ lines => lines.filterMap fun
    | .unique _ columns => some columns
    | _ => none
  | .addForeignKey _ _ => []

/-- The columns of each key that a statement declares: primary keys and uniqueness constraints. -/
def keys (s : Statement) : List (List String) :=
  (s.columns.filter (·.role = .primaryKey)).map (fun c => [c.name]) ++ s.uniqueColumns

end Statement

variable {d : Document} {set : RelationSet} {t : ObjectType} {s : Statement}

/-- The uniqueness constraints of a table are those of its type. -/
theorem uniqueColumns_of_tableOf (h : tableOf d set t = .ok s) :
    s.uniqueColumns = t.options.uniqueConstraints.map (·.fields) := by
  simp only [tableOf, Except.bind_eq_ok_iff, Except.pure_eq_ok_iff] at h
  obtain ⟨scalars, -, enums, -, references, -, rfl⟩ := h
  simp [Statement.uniqueColumns, uniqueLine, indexLine, auditColumns, Function.comp_def]

/-- **The keys of the table of a type** are its primary key and its constraints. -/
theorem mem_keys_iff (h : tableOf d set t = .ok s) {columns : List String} :
    columns ∈ s.keys ↔ (∃ key, t.primaryKey? = some key ∧ [key.name] = columns) ∨
      ∃ c ∈ t.options.uniqueConstraints, c.fields = columns := by
  rw [Statement.keys, List.mem_append, uniqueColumns_of_tableOf h, List.mem_map, List.mem_map]
  refine or_congr_left ⟨?_, ?_⟩
  · rintro ⟨c, hc, rfl⟩
    obtain ⟨hcolumn, hrole⟩ := List.mem_filter.mp hc
    obtain ⟨key, hkey, hname⟩ :=
      Option.map_eq_some_iff.mp (primaryKey?_of_role h hcolumn (of_decide_eq_true hrole))
    exact ⟨key, hkey, by rw [hname]⟩
  · rintro ⟨key, hkey, rfl⟩
    obtain ⟨-, hcolumn, -⟩ := createsKeyed_of_tableOf h hkey
    exact ⟨_, List.mem_filter.mpr ⟨hcolumn, by simp⟩, rfl⟩

end Sql

namespace Api

/-- Both rows have values that are not null in all of the columns, and these are the same. -/
def Row.AgreeOn (reading : Reading) (columns : List String) (r r' : Row) : Prop :=
  ∀ column ∈ columns, ∃ v w, r.lookup column = some v ∧ r'.lookup column = some w ∧
    v ≠ .null ∧ reading.same v w

/-- The rows satisfy the keys that the statement declares: no primary key is null, and no two rows
agree on a key. -/
structure Admits (reading : Reading) (s : Sql.Statement) (rows : List Row) : Prop where
  hasKey : ∀ c ∈ s.columns, c.role = .primaryKey → ∀ r ∈ rows,
    ∃ v, r.lookup c.name = some v ∧ v ≠ .null
  unique : rows.Pairwise fun r r' => ∀ columns ∈ s.keys, ¬ Row.AgreeOn reading columns r r'

/-- The entries are a lookup by keys of the type: each is for the primary key, for the field of a
constraint or for the label of a constraint over several fields, and no part of the latter is
null. -/
structure LooksUp (t : ObjectType) (entries : List (String × Value)) : Prop where
  keys : ∀ e ∈ entries, e.1 ∈ lookupKeys t
  parts : ∀ e ∈ entries, t.field? e.1 = none → ∀ parts, e.2 = .object parts →
    ∀ p ∈ parts, p.2 ≠ .null

/-- Only null is handed on as null. -/
theorem Value.toJson_ne_null {v : Value} (h : v ≠ .null) : v.toJson ≠ .null := by
  cases v <;> simp_all [toJson]

variable {reading : Reading} {d : Document} {set : RelationSet} {t : ObjectType} {s : Sql.Statement}
  {entries : List (String × Value)} {r r' : Row}

/-- Two cells that are equal to one value, which is not null, are the same. -/
theorem Reading.same_of_meets {x y : Option Json} {v : Json} (hv : v ≠ .null)
    (hx : reading.meets x .eq v = true) (hy : reading.meets y .eq v = true) :
    ∃ a b, x = some a ∧ y = some b ∧ a ≠ .null ∧ reading.same a b := by
  obtain ⟨a, rfl, ha⟩ := (reading.meets_eq_iff hv).mp hx
  obtain ⟨b, rfl, hb⟩ := (reading.meets_eq_iff hv).mp hy
  have hsame := reading.equivalence.trans ha (reading.equivalence.symm hb)
  exact ⟨a, b, rfl, rfl, reading.ne_null_of_same ha hv, hsame⟩

/-- What a lookup says about a row. -/
def lookupMeaning (reading : Reading) (t : ObjectType) (r : Row) : Meaning :=
  uniqueMeaning t fun column operator v => reading.meets (r.lookup column) operator v

/-- A key of the input for single rows that is a field is a key of the table. -/
theorem lookupKey_mem_keys (hs : Sql.tableOf d set t = .ok s)
    (hclear : ∀ c ∈ t.options.uniqueConstraints, ConstraintClear t c) {key : String}
    (hkey : key ∈ lookupKeys t) (hfield : t.field? key ≠ none) : [key] ∈ s.keys := by
  rcases List.mem_append.mp hkey with hprimary | hconstraint
  · obtain ⟨f, hf, rfl⟩ : ∃ f, t.primaryKey? = some f ∧ f.name = key := by simpa using hprimary
    exact (Sql.mem_keys_iff hs).mpr (.inl ⟨f, hf, rfl⟩)
  · obtain ⟨c, hc, rfl⟩ := List.mem_map.mp hconstraint
    rcases constraintKey_cases c with hsingle | ⟨hlength, hlabel⟩
    · exact (Sql.mem_keys_iff hs).mpr (.inr ⟨c, hc, hsingle⟩)
    · exact absurd ((hclear c hc).label hlength) (hlabel ▸ hfield)

/-- **Two rows for which an entry of a lookup holds agree on a key** of the table: the field that the
entry names, or all the fields of the constraint that it names. -/
theorem LooksUp.exists_agreeOn (h : LooksUp t entries) (hs : Sql.tableOf d set t = .ok s)
    (hor : "_or" ∉ lookupKeys t)
    (hclear : ∀ c ∈ t.options.uniqueConstraints, ConstraintClear t c)
    {e : String × Value} (he : e ∈ entries) (hvalue : e.2 ≠ .null)
    (hr : (lookupMeaning reading t r).EntryHolds e)
    (hr' : (lookupMeaning reading t r').EntryHolds e) :
    ∃ columns ∈ s.keys, Row.AgreeOn reading columns r r' := by
  have hkey := h.keys e he
  have hne : e.1 ≠ "_or" := fun heq => hor (heq ▸ hkey)
  simp only [Meaning.EntryHolds, lookupMeaning, uniqueMeaning, if_neg hne,
    ← isSome_field?_iff] at hr hr'
  -- a key that is no field is a label, and its parts give all the fields of the constraint
  cases hfield : t.field? e.1 with
  | some f =>
      simp only [hfield, Option.isSome_some, if_true] at hr hr'
      refine ⟨[e.1], lookupKey_mem_keys hs hclear hkey (by simp [hfield]), ?_⟩
      refine List.forall_mem_singleton.mpr ?_
      exact Reading.same_of_meets (Value.toJson_ne_null hvalue) hr hr'
  | none =>
      simp only [hfield, Option.isSome_none, Bool.false_eq_true, if_false] at hr hr'
      obtain ⟨c, parts, hnamed, hparts, hr⟩ := hr
      obtain ⟨c', parts', hnamed', hparts', hr'⟩ := hr'
      obtain rfl := hnamed.unique hnamed'
      obtain rfl := Value.object.inj (hparts.symm.trans hparts')
      have hc : c ∈ t.options.uniqueConstraints := hnamed.mem
      refine ⟨c.fields, (Sql.mem_keys_iff hs).mpr (.inr ⟨c, hc, rfl⟩), fun name hname => ?_⟩
      obtain ⟨w, hw, hmeets⟩ := hr name hname
      obtain ⟨w', hw', hmeets'⟩ := hr' name hname
      obtain rfl := Option.some.inj (hw.symm.trans hw')
      obtain ⟨before, after, hsplit, -⟩ := List.lookup_eq_some_iff.mp hw
      have hpart : w ≠ .null := h.parts e he hfield parts hparts (name, w) (by simp [hsplit])
      exact Reading.same_of_meets (Value.toJson_ne_null hpart) hmeets hmeets'

/-- A translated lookup has an entry that is not null. -/
theorem exists_entry_of_uniqueFilter {f : Filter}
    (h : uniqueFilter t (.object entries) = .ok f) : ∃ e ∈ entries, e.2 ≠ .null := by
  obtain ⟨cs, hcs, -, hempty⟩ := InputForm.of_item_object_eq_ok h
  cases hkept : entries.filter fun e => !e.2.isNull with
  | nil =>
      rw [hkept] at hcs
      exact absurd (hempty (Except.ok.inj hcs).symm) nofun
  | cons e rest =>
      have he : e ∈ entries.filter fun e => !e.2.isNull := hkept ▸ List.mem_cons_self
      obtain ⟨hmem, hnull⟩ := List.mem_filter.mp he
      exact ⟨e, hmem, Value.isNull_eq_false_iff.mp (by simpa using hnull)⟩

/-- **A lookup of a single row identifies at most one row.** The type belongs to an accepted document
and has an input for single rows; the lookup is by keys which that input offers, without nulls in the
parts of a constraint, and is translated. Then at most one of any rows that satisfy the keys of the
table satisfies the filter, whatever the database takes for equal. -/
theorem uniqueFilter_selects_at_most_one {objectTypes : List ObjectType} {enumTypes : List EnumType}
    (hd : Document.validated objectTypes enumTypes = .ok d) (ht : t ∈ d.objectTypes)
    {types : List ApiType} (htypes : uniqueInputs t = .ok types)
    (hs : Sql.tableOf d set t = .ok s) (hentries : LooksUp t entries) {f : Filter}
    (hf : uniqueFilter t (.object entries) = .ok f) {rows : List Row}
    (hrows : Admits reading s rows) : (rows.filter (reading.satisfies f)).length ≤ 1 := by
  have hends : (uniqueInputs t).Ends
      (fun _ => "_or" ∉ lookupKeys t ∧ ∀ c ∈ t.options.uniqueConstraints, ConstraintClear t c)
      fun _ => True :=
    uniqueInputs_ends (Document.constraintFields_found_of_validated hd t ht) (by simp) (by simp)
      (by simp)
  obtain ⟨hor, hclear⟩ := hends.1 types htypes
  -- one entry suffices: it gives the whole of a key, whatever else the lookup asks for
  obtain ⟨e, he, hvalue⟩ := exists_entry_of_uniqueFilter hf
  have hholds : ∀ r, reading.satisfies f r = true → (lookupMeaning reading t r).EntryHolds e := by
    intro r hr
    have hobject := ((uniqueForm_means t).item_holds_iff hf).mp hr
    exact Meaning.holds_object_iff.mp hobject e he hvalue
  refine (hrows.unique.sublist List.filter_sublist).length_le_one ?_
  intro r hr r' hr' hapart
  obtain ⟨columns, hcolumns, hagree⟩ := hentries.exists_agreeOn hs hor hclear he hvalue
    (hholds r (List.mem_filter.mp hr).2) (hholds r' (List.mem_filter.mp hr').2)
  exact hapart columns hcolumns hagree

end Api

/-! ### People in the directory -/

/-- The people of the directory. -/
def ObjectType.person : ObjectType := Document.directory.objectTypes[1]

/-- Two people of one first name, one of them without an address. -/
def directoryRows : List Api.Row :=
  [ [("id", .int 1), ("email", .string "ada@example.com"), ("first", .string "Ada"),
      ("last", .string "Lovelace")],
    [("id", .int 2), ("email", .null), ("first", .string "Ada"), ("last", .string "Byron")] ]

/-- A person by name, the address left open. -/
def personByName : List (String × Api.Value) :=
  [ ("email", .null),
    ("first_last", .object [("last", .string "Lovelace"), ("first", .string "Ada")]) ]

namespace Api

/-- Rows do not agree on columns when their texts differ in one of them. -/
theorem not_agreeOn_byText {columns : List String} {r r' : Row} {column : String}
    (hcolumn : column ∈ columns)
    (htexts : (r.lookup column).bind keyText ≠ (r'.lookup column).bind keyText) :
    ¬ Row.AgreeOn .byText columns r r' := by
  intro h
  obtain ⟨v, w, hv, hw, -, hsame⟩ := h column hcolumn
  rw [hv, hw] at htexts
  exact htexts hsame

/-- The people satisfy the keys of their table: no two have one number, one address or one name. -/
theorem directoryRows_admitted {s : Sql.Statement}
    (hs : Sql.tableOf .directory .directory .person = .ok s) :
    Admits .byText s directoryRows := by
  have hprimary : ObjectType.person.primaryKey?.map (·.name) = some "id" := by decide
  constructor
  case hasKey =>
    intro c hc hrole
    rw [← Option.some.inj (hprimary.symm.trans (Sql.primaryKey?_of_role hs hc hrole))]
    exact List.forall_mem_cons.mpr ⟨⟨.int 1, rfl, nofun⟩,
      List.forall_mem_singleton.mpr ⟨.int 2, rfl, nofun⟩⟩
  case unique =>
    refine List.pairwise_pair.mpr fun columns hcolumns => ?_
    rcases (Sql.mem_keys_iff hs).mp hcolumns with ⟨key, hkey, rfl⟩ | ⟨c, hc, rfl⟩
    · rw [hkey] at hprimary
      obtain hname : key.name = "id" := Option.some.inj hprimary
      rw [hname]
      exact not_agreeOn_byText List.mem_cons_self (by decide +kernel)
    · have hcases : c = { fields := ["email"] } ∨ c = { fields := ["first", "last"] } := by
        simpa [ObjectType.person, Document.directory, ObjectType.of] using hc
      rcases hcases with rfl | rfl
      · exact not_agreeOn_byText List.mem_cons_self (by decide +kernel)
      · exact not_agreeOn_byText (List.mem_cons_of_mem _ List.mem_cons_self) (by decide +kernel)

/-- A lookup of a person by name identifies at most one of the two. -/
theorem person_identified :
    ∃ types s f, uniqueInputs .person = .ok types ∧
      Sql.tableOf .directory .directory .person = .ok s ∧ LooksUp .person personByName ∧
      uniqueFilter .person (.object personByName) = .ok f ∧ Admits .byText s directoryRows ∧
      (directoryRows.filter (Reading.byText.satisfies f)).length ≤ 1 := by
  have hd : Document.validated Document.directory.objectTypes Document.directory.enumTypes =
      .ok .directory := by decide +kernel
  have ht : ObjectType.person ∈ Document.directory.objectTypes := by decide
  obtain ⟨types, htypes⟩ : ∃ types, uniqueInputs .person = .ok types := ⟨_, rfl⟩
  obtain ⟨s, hs⟩ : ∃ s, Sql.tableOf .directory .directory .person = .ok s := ⟨_, rfl⟩
  obtain ⟨f, hf⟩ : ∃ f, uniqueFilter .person (.object personByName) = .ok f := ⟨_, rfl⟩
  have hentries : LooksUp .person personByName := by
    refine ⟨by decide, ?_⟩
    simp only [personByName, List.forall_mem_cons]
    refine ⟨fun _ _ => nofun, fun _ parts hparts => ?_, by simp⟩
    obtain rfl := Value.object.inj hparts
    simp
  have hrows := directoryRows_admitted hs
  exact ⟨types, s, f, htypes, hs, hentries, hf, hrows,
    uniqueFilter_selects_at_most_one hd ht htypes hs hentries hf hrows⟩

end Api

end DataModel
