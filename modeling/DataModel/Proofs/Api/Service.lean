import DataModel.Api.Resolution
import DataModel.Proofs.Relation.Resolvability

/-!
# Databases that serve a document

The generated API asks its database for rows by key and by filter, and trusts the answers. This
module says what a faithful answer is, for any database: `Reading` is what its conditions mean as
far as keys are compared, `Serves` that it answers for the rows that its tables hold, and `Keyed`
that these rows can be told apart by their keys.

Equality of keys is left to the database. It may compare by value, by text or without regard to
case, as long as this is an equivalence in which null stands alone.

## Main results

* `Fetch.Returns`: a computation returns a value, whatever calls were made before it, with the rules
  for the steps that resolvers are made of.
* `Database.Serves.rowById_returns`, `rows_returns`, `firstRow_returns`: what the three requests to
  a faithful database return.
* `Database.holding_serves`, `keyed_byText`: rows in memory are served faithfully.
-/

namespace DataModel.Api

/-! ### Computations that return -/

/-- A computation returns a value after any calls. -/
def Fetch.Returns {α : Type} (x : Fetch α) (a : α) : Prop :=
  ∀ calls, ∃ calls', x.run calls = (.ok a, calls')

namespace Fetch

variable {α β : Type}

/-- A value returns itself. -/
theorem returns_pure (a : α) : Returns (pure a) a := fun calls => ⟨calls, rfl⟩

/-- A computation that goes on from a value returns what it returns from there. -/
theorem Returns.bind {x : Fetch α} {a : α} (hx : Returns x a) {f : α → Fetch β} {b : β}
    (hf : Returns (f a) b) : Returns (x >>= f) b := by
  intro calls
  obtain ⟨between, hbetween⟩ := hx calls
  obtain ⟨after, hafter⟩ := hf between
  refine ⟨after, ?_⟩
  change StateT.run (x >>= f).run calls = _
  rw [ExceptT.run_bind, StateT.run_bind, StateT.run, hbetween]
  exact hafter

/-- A value that a computation returns is changed by what is done to it. -/
theorem Returns.map {x : Fetch α} {a : α} (hx : Returns x a) (f : α → β) :
    Returns (x >>= fun a => pure (f a)) (f a) := hx.bind (returns_pure (f a))

/-- A call returns the answer of the database. -/
theorem returns_call {c : Call} {answer : Except DatabaseError α} {a : α} (h : answer = .ok a) :
    Returns (call c answer) a := by
  intro calls
  subst h
  exact ⟨calls ++ [c], rfl⟩

end Fetch

/-! ### Faithful databases -/

/-- What a database takes its conditions to mean. Only the conditions on keys are fixed: a cell
equals a value that is not null if it holds the same value, and a cell that is not null is among
values if it holds the same value as one of them. -/
structure Reading where
  /-- Whether the cell of a column meets a condition; there is no cell where the row lacks the
  column. -/
  meets : Option Json → Operator → Json → Bool
  same : Json → Json → Prop
  equivalence : Equivalence same
  eq_null_of_same : ∀ {v : Json}, same .null v → v = .null
  meets_eq_iff : ∀ {cell : Option Json} {v : Json}, v ≠ .null →
    (meets cell .eq v = true ↔ ∃ c, cell = some c ∧ same c v)
  meets_isIn_iff : ∀ {c : Json} {vs : List Json}, c ≠ .null →
    (meets (some c) .isIn (.array vs) = true ↔ ∃ v ∈ vs, same c v)

namespace Reading

/-- Whether a row satisfies a filter. -/
def satisfies (reading : Reading) (f : Filter) (r : Row) : Bool :=
  f.holds fun column operator v => reading.meets (r.lookup column) operator v

/-- An equality is satisfied by the rows whose cell meets it. -/
theorem satisfies_eq (reading : Reading) (column : String) (v : Json) (r : Row) :
    reading.satisfies (.eq column v) r = reading.meets (r.lookup column) .eq v := by
  rw [satisfies, Filter.eq, Filter.holds]

/-- A membership is satisfied by the rows whose cell meets it. -/
theorem satisfies_isIn (reading : Reading) (column : String) (vs : List Json) (r : Row) :
    reading.satisfies (.isIn column vs) r = reading.meets (r.lookup column) .isIn (.array vs) := by
  rw [satisfies, Filter.isIn, Filter.holds]

/-- A value that is the same as one that is not null is not null. -/
theorem ne_null_of_same (reading : Reading) {v w : Json} (h : reading.same v w) (hw : w ≠ .null) :
    v ≠ .null := by
  rintro rfl
  exact hw (reading.eq_null_of_same h)

end Reading

/-- The tables of a document with its relations: one for each object type and one for each
many-to-many relation. -/
inductive IsTable (d : Document) (set : RelationSet) : String → Prop
  | objectType {t : ObjectType} : t ∈ d.objectTypes → IsTable d set (tableName t.name)
  | junction {r : Relation} : r ∈ set.relations → r.cardinality = .manyToMany →
      IsTable d set r.junctionTable

/-- The rows of every object type carry primary keys, which are not null and tell them apart. -/
structure Keyed (d : Document) (reading : Reading) (contents : String → List Row) : Prop where
  hasKey : ∀ t ∈ d.objectTypes, ∀ key, t.primaryKey? = some key →
    ∀ r ∈ contents (tableName t.name), ∃ v, r.lookup key.name = some v ∧ v ≠ .null
  unique : ∀ t ∈ d.objectTypes, ∀ key, t.primaryKey? = some key →
    ∀ r ∈ contents (tableName t.name), ∀ s ∈ contents (tableName t.name), ∀ v w,
      r.lookup key.name = some v → s.lookup key.name = some w → reading.same v w → r = s

/-- The database answers for the rows that its tables hold: with the row that has a given primary
key, with exactly the rows under a filter, and with the first of them. -/
structure Database.Serves (db : Database) (d : Document) (set : RelationSet) (reading : Reading)
    (contents : String → List Row) : Prop where
  findById : ∀ t ∈ d.objectTypes, ∀ key, t.primaryKey? = some key → ∀ v, v ≠ .null →
    ∃ found, db.findById (tableName t.name) v = .ok found ∧
      (∀ r, found = some r → r ∈ contents (tableName t.name) ∧
        ∃ w, r.lookup key.name = some w ∧ reading.same w v) ∧
      (found = none → ∀ r ∈ contents (tableName t.name), ∀ w,
        r.lookup key.name = some w → ¬ reading.same w v)
  findMany : ∀ table, IsTable d set table → ∀ f, ∃ rows, db.findMany table (some f) [] = .ok rows ∧
    ∀ r, r ∈ rows ↔ r ∈ contents table ∧ reading.satisfies f r = true
  findFirst : ∀ table, IsTable d set table → ∀ f,
    db.findFirst table f = .ok ((contents table).find? (reading.satisfies f))

namespace Database.Serves

variable {db : Database} {d : Document} {set : RelationSet} {reading : Reading}
  {contents : String → List Row} {table : String}

/-- The row returned for a key is the one that has it. -/
theorem rowById_returns (h : db.Serves d set reading contents) (hkeyed : Keyed d reading contents)
    {t : ObjectType} (ht : t ∈ d.objectTypes) {key : Field} (hkey : t.primaryKey? = some key)
    {v : Json} (hv : v ≠ .null) :
    ∃ found, Fetch.Returns (db.rowById (tableName t.name) v) found ∧
      ∀ r, found = some r ↔ r ∈ contents (tableName t.name) ∧
        ∃ w, r.lookup key.name = some w ∧ reading.same w v := by
  obtain ⟨found, hfound, hsome, hnone⟩ := h.findById t ht key hkey v hv
  refine ⟨found, Fetch.returns_call hfound, fun r => ⟨hsome r, fun ⟨hr, w, hw, hsame⟩ => ?_⟩⟩
  cases hcase : found with
  | none => exact absurd hsame (hnone hcase r hr w hw)
  | some s =>
      obtain ⟨hs, w', hw', hsame'⟩ := hsome s hcase
      have hboth := reading.equivalence.trans hsame' (reading.equivalence.symm hsame)
      exact congrArg some (hkeyed.unique t ht key hkey s hs r hr w' w hw' hw hboth)

/-- The rows returned under a filter are those of the table that satisfy it. -/
theorem rows_returns (h : db.Serves d set reading contents) (htable : IsTable d set table)
    (f : Filter) :
    ∃ rows, Fetch.Returns (db.rows table (some f) []) rows ∧
      ∀ r, r ∈ rows ↔ r ∈ contents table ∧ reading.satisfies f r = true := by
  obtain ⟨rows, hrows, hmem⟩ := h.findMany table htable f
  exact ⟨rows, Fetch.returns_call hrows, hmem⟩

/-- The row returned as the first under a filter is the first that satisfies it. -/
theorem firstRow_returns (h : db.Serves d set reading contents) (htable : IsTable d set table)
    (f : Filter) :
    Fetch.Returns (db.firstRow table f) ((contents table).find? (reading.satisfies f)) :=
  Fetch.returns_call (h.findFirst table htable f)

end Database.Serves

/-! ### Rows in memory -/

/-- The text of a value by which it is compared as a key; null has none. -/
def keyText : Json → Option String
  | .null => none
  | v => some (cellText (some v))

/-- Only null has no text. -/
theorem keyText_eq_none_iff {v : Json} : keyText v = none ↔ v = .null := by
  cases v <;> simp [keyText]

/-- Keys are compared by their texts, and all other conditions mean what they mean for tables in
memory. -/
def Reading.byText : Reading where
  meets
    | cell, .eq, v => cell.any fun c => keyText c == keyText v
    | cell, .isIn, .array vs => cell.any fun c => vs.any fun v => keyText c == keyText v
    | cell, operator, v => cellMeets cell operator v
  same v w := keyText v = keyText w
  equivalence := ⟨fun _ => rfl, Eq.symm, Eq.trans⟩
  eq_null_of_same h := keyText_eq_none_iff.mp h.symm
  meets_eq_iff {cell _} _ := by cases cell <;> simp
  meets_isIn_iff _ := by simp

/-- The texts of the keys of rows. -/
def keyTexts (keyColumn : String) (rows : List Row) : List (Option String) :=
  rows.map fun r => (r.lookup keyColumn).bind keyText

/-- The database that holds these rows, whose keys are all in one column, and reads its conditions
in a given way. -/
def Database.holding (reading : Reading) (keyColumn : String) (contents : String → List Row) :
    Database where
  findById table v := .ok ((contents table).find? (reading.satisfies (.eq keyColumn v)))
  findMany table filter order :=
    .ok (order.foldr sortRows ((contents table).filter fun r => filter.all (reading.satisfies · r)))
  findFirst table filter := .ok ((contents table).find? (reading.satisfies filter))

section Memory

variable {d : Document} {keyColumn : String}
  (hcolumn : ∀ t ∈ d.objectTypes, ∀ key, t.primaryKey? = some key → key.name = keyColumn)
include hcolumn

/-- A database that holds rows answers for them. -/
theorem Database.holding_serves (set : RelationSet) (reading : Reading)
    (contents : String → List Row) :
    (holding reading keyColumn contents).Serves d set reading contents := by
  constructor
  case findById =>
    intro t ht key hkey v hv
    obtain rfl := hcolumn t ht key hkey
    have hmeets : ∀ r : Row, reading.satisfies (.eq key.name v) r = true ↔
        ∃ w, r.lookup key.name = some w ∧ reading.same w v := fun r => by
      rw [reading.satisfies_eq, reading.meets_eq_iff hv]
    refine ⟨_, rfl, fun r hr => ⟨List.mem_of_find?_eq_some hr, ?_⟩, fun hnone r hr w hw hsame => ?_⟩
    · exact (hmeets r).mp (List.find?_some hr)
    · exact List.find?_eq_none.mp hnone r hr ((hmeets r).mpr ⟨w, hw, hsame⟩)
  case findMany =>
    intro table _ f
    exact ⟨_, rfl, fun r => by simp⟩
  case findFirst =>
    intro table _ f
    rfl

/-- Rows whose keys have different texts are told apart by them. -/
theorem keyed_byText {contents : String → List Row}
    (htexts : ∀ t ∈ d.objectTypes, none ∉ keyTexts keyColumn (contents (tableName t.name)) ∧
      (keyTexts keyColumn (contents (tableName t.name))).Nodup) :
    Keyed d .byText contents := by
  constructor
  case hasKey =>
    intro t ht key hkey r hr
    obtain rfl := hcolumn t ht key hkey
    obtain ⟨hsome, -⟩ := htexts t ht
    have hr' : (r.lookup key.name).bind keyText ≠ none :=
      fun h => hsome (List.mem_map.mpr ⟨r, hr, h⟩)
    cases hlookup : r.lookup key.name with
    | none => exact absurd (by rw [hlookup]; rfl) hr'
    | some v =>
        rw [hlookup] at hr'
        exact ⟨v, rfl, mt keyText_eq_none_iff.mpr hr'⟩
  case unique =>
    intro t ht key hkey r hr s hs v w hv hw hsame
    obtain rfl := hcolumn t ht key hkey
    refine List.eq_of_map_nodup (htexts t ht).2 hr hs ?_
    rw [hv, hw]
    exact hsame

end Memory

end DataModel.Api
