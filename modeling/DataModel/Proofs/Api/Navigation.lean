import DataModel.Proofs.Api.Binding
import DataModel.Proofs.Api.Service

/-!
# Navigation is consistent

A relation can be followed from both of its fields, and the two ways are resolved differently: by
the key that a row holds, by the rows that hold its key, or through a junction table. On a database
that answers faithfully they agree. Whatever way is taken, a row is reached exactly when a column
links the two rows (`Links`), and both fields of a relation look at the same column.

Nothing is asked of the names of the tables: where two types share one, their rows are the same rows
for the database and the two ways still agree.

## Main results

* `Database.Serves.reference_returns`, `reverse_returns`, `reverseFirst_returns`,
  `junction_returns`: which rows a binding of each kind reaches.
* `navigable_of_serves`: **navigation along every relation is consistent from both ends**.
-/

namespace DataModel.Api

/-! ### What resolved values stand for -/

/-- The rows that a field stands for. -/
def Resolved.rowsOf : Option Resolved → List Row
  | some (.row r) => [r]
  | some (.rows rs) => rs
  | _ => []

/-- A field that stands for a row, if any, stands for that row only. -/
theorem Resolved.mem_rowsOf_map_row {found : Option Row} {r : Row} :
    r ∈ rowsOf (found.map .row) ↔ found = some r := by
  cases found <;> simp [rowsOf, eq_comm]

/-- The cell of a column of the row holds the key of the target row. -/
def Row.Refers (reading : Reading) (r : Row) (column : String) (target : Row) (key : String) :
    Prop :=
  ∃ c k, r.lookup column = some c ∧ target.lookup key = some k ∧ reading.same c k

/-- A cell that is found is there and not null. -/
theorem Row.cell?_eq_some_iff {r : Row} {column : String} {c : Json} :
    r.cell? column = some c ↔ r.lookup column = some c ∧ c ≠ .null := by
  unfold Row.cell?
  split
  case h_1 hnull => simp [hnull, eq_comm]
  case h_2 hcell =>
    constructor
    · intro hc
      exact ⟨hc, fun hnull => hcell (hnull ▸ hc)⟩
    · exact And.left

/-- The key that a row has to have is returned if the row has it. -/
theorem Row.key_returns {r : Row} {column : String} {k : Json} (h : r.lookup column = some k) :
    Fetch.Returns (r.key column) k := by
  simp only [Row.key, h]
  exact Fetch.returns_pure k

/-- A row satisfies the condition that a column equals the key of a row when the column refers to
that row. -/
theorem Reading.satisfies_eq_iff (reading : Reading) {r target : Row} {column key : String}
    {k : Json} (hkey : target.lookup key = some k) (hk : k ≠ .null) :
    reading.satisfies (.eq column k) r = true ↔ r.Refers reading column target key := by
  rw [reading.satisfies_eq, reading.meets_eq_iff hk]
  constructor
  · rintro ⟨c, hc, hsame⟩
    exact ⟨c, k, hc, hkey, hsame⟩
  · rintro ⟨c, k', hc, hkey', hsame⟩
    obtain rfl := Option.some.inj (hkey.symm.trans hkey')
    exact ⟨c, hc, hsame⟩

/-- A row with a key satisfies the condition that the key is among values when it is the same as one
of them. -/
theorem Reading.satisfies_isIn_iff (reading : Reading) {r : Row} {key : String} {w : Json}
    (hr : r.lookup key = some w) (hw : w ≠ .null) {vs : List Json} :
    reading.satisfies (.isIn key vs) r = true ↔ ∃ v ∈ vs, reading.same w v := by
  rw [reading.satisfies_isIn, hr, reading.meets_isIn_iff hw]

/-- The key of a row is in the other column of one of the links to a row exactly when some stored
link refers to both rows. -/
theorem Reading.exists_cell_iff (reading : Reading) {s : Row} {primaryKey : String} {k : Json}
    (hs : s.lookup primaryKey = some k) (hk : k ≠ .null) {stored links : List Row}
    {ownColumn : String} (otherColumn : String)
    (hlinks : ∀ link, link ∈ links ↔
      link ∈ stored ∧ reading.satisfies (.eq ownColumn k) link = true)
    {r : Row} {targetKey : String} {w : Json} (hr : r.lookup targetKey = some w) :
    (∃ v ∈ links.filterMap (·.lookup otherColumn), reading.same w v) ↔
      ∃ link ∈ stored, link.Refers reading ownColumn s primaryKey ∧
        link.Refers reading otherColumn r targetKey := by
  constructor
  · rintro ⟨v, hv, hsame⟩
    obtain ⟨link, hlink, hcell⟩ := List.mem_filterMap.mp hv
    obtain ⟨hstored, hown⟩ := (hlinks link).mp hlink
    exact ⟨link, hstored, (reading.satisfies_eq_iff hs hk).mp hown, v, w, hcell, hr,
      reading.equivalence.symm hsame⟩
  · rintro ⟨link, hstored, hown, v, w', hcell, hw', hsame⟩
    obtain rfl := Option.some.inj (hr.symm.trans hw')
    have hlink := (hlinks link).mpr ⟨hstored, (reading.satisfies_eq_iff hs hk).mpr hown⟩
    exact ⟨v, List.mem_filterMap.mpr ⟨link, hlink, hcell⟩, reading.equivalence.symm hsame⟩

/-! ### What each binding reaches -/

namespace Database.Serves

variable {db : Database} {d : Document} {set : RelationSet} {reading : Reading}
  {contents : String → List Row} {t : ObjectType} {key : Field}

/-- A reference reaches the row that its column refers to. -/
theorem reference_returns (h : db.Serves d set reading contents) (hkeyed : Keyed d reading contents)
    (ht : t ∈ d.objectTypes) (hkey : t.primaryKey? = some key) (s : Row) (column : String) :
    ∃ found : Option Row,
      Fetch.Returns ((Binding.reference (tableName t.name) column).resolve db s)
        (found.map .row) ∧
      ∀ r, found = some r ↔
        r ∈ contents (tableName t.name) ∧ s.Refers reading column r key.name := by
  rw [Binding.resolve]
  cases hcell : s.cell? column with
  | none =>
      refine ⟨none, Fetch.returns_pure none, fun r => ⟨nofun, ?_⟩⟩
      rintro ⟨hr, c, k, hc, hk, hsame⟩
      obtain ⟨k', hk', hne⟩ := hkeyed.hasKey t ht key hkey r hr
      obtain rfl := Option.some.inj (hk.symm.trans hk')
      have hfound := Row.cell?_eq_some_iff.mpr ⟨hc, reading.ne_null_of_same hsame hne⟩
      exact absurd (hcell.symm.trans hfound) nofun
  | some c =>
      obtain ⟨hc, hne⟩ := Row.cell?_eq_some_iff.mp hcell
      obtain ⟨found, hfound, hmem⟩ := h.rowById_returns hkeyed ht hkey hne
      refine ⟨found, hfound.map _, fun r => (hmem r).trans (and_congr_right fun _ => ?_)⟩
      constructor
      · rintro ⟨k, hk, hsame⟩
        exact ⟨c, k, hc, hk, reading.equivalence.symm hsame⟩
      · rintro ⟨c', k, hc', hk, hsame⟩
        obtain rfl := Option.some.inj (hc.symm.trans hc')
        exact ⟨k, hk, reading.equivalence.symm hsame⟩

section Keys

variable (h : db.Serves d set reading contents) {s : Row} {primaryKey : String} {k : Json}
  (hs : s.lookup primaryKey = some k) (hk : k ≠ .null) {table : String}
include h hs hk

/-- A reverse look-up reaches the rows of the target table that refer to the row. -/
theorem reverse_returns (htable : IsTable d set table) (column : String) :
    ∃ rows, Fetch.Returns ((Binding.reverse table column primaryKey true).resolve db s)
        (some (.rows rows)) ∧
      ∀ r, r ∈ rows ↔ r ∈ contents table ∧ r.Refers reading column s primaryKey := by
  obtain ⟨rows, hrows, hmem⟩ := h.rows_returns htable (.eq column k)
  refine ⟨rows, (Row.key_returns hs).bind (hrows.map _), fun r => ?_⟩
  rw [hmem, reading.satisfies_eq_iff hs hk]

/-- A reverse look-up of a single row reaches a row that refers to the row, if there is one. -/
theorem reverseFirst_returns (htable : IsTable d set table) (column : String) :
    ∃ found : Option Row,
      Fetch.Returns ((Binding.reverse table column primaryKey false).resolve db s)
        (found.map .row) ∧
      (∀ r, found = some r → r ∈ contents table ∧ r.Refers reading column s primaryKey) ∧
      (found = none → ∀ r ∈ contents table, ¬ r.Refers reading column s primaryKey) := by
  have hrefers : ∀ r : Row, reading.satisfies (.eq column k) r = true ↔
      r.Refers reading column s primaryKey := fun r => reading.satisfies_eq_iff hs hk
  refine ⟨_, (Row.key_returns hs).bind ((h.firstRow_returns htable (.eq column k)).map _), ?_, ?_⟩
  · intro r hr
    exact ⟨List.mem_of_find?_eq_some hr, (hrefers r).mp (List.find?_some hr)⟩
  · intro hnone r hr
    exact mt (hrefers r).mpr (List.find?_eq_none.mp hnone r hr)

/-- A junction reaches the rows of the target type for which there is a link that refers to both. -/
theorem junction_returns (hkeyed : Keyed d reading contents) (htable : IsTable d set table)
    (ht : t ∈ d.objectTypes) (hkey : t.primaryKey? = some key) (ownColumn otherColumn : String) :
    ∃ rows, Fetch.Returns ((Binding.junction table ownColumn otherColumn primaryKey
        (tableName t.name) key.name).resolve db s) (some (.rows rows)) ∧
      ∀ r, r ∈ rows ↔ r ∈ contents (tableName t.name) ∧ ∃ link ∈ contents table,
        link.Refers reading ownColumn s primaryKey ∧
        link.Refers reading otherColumn r key.name := by
  obtain ⟨links, hlinks, hmem⟩ := h.rows_returns htable (.eq ownColumn k)
  cases hkeys : links.filterMap (·.lookup otherColumn) with
  | nil =>
      refine ⟨[], (Row.key_returns hs).bind (hlinks.bind ?_), fun r => ⟨nofun, ?_⟩⟩
      · simp only [hkeys]
        exact Fetch.returns_pure _
      · rintro ⟨hr, hlink⟩
        obtain ⟨w, hw, -⟩ := hkeyed.hasKey t ht key hkey r hr
        obtain ⟨v, hv, -⟩ := (reading.exists_cell_iff hs hk otherColumn hmem hw).mpr hlink
        rw [hkeys] at hv
        exact absurd hv List.not_mem_nil
  | cons v rest =>
      obtain ⟨rows, hrows, hmem'⟩ :=
        h.rows_returns (.objectType ht) (.isIn key.name (v :: rest))
      refine ⟨rows, (Row.key_returns hs).bind (hlinks.bind ?_), fun r =>
        (hmem' r).trans (and_congr_right fun hr => ?_)⟩
      · simp only [hkeys]
        exact hrows.map _
      · obtain ⟨w, hw, hne⟩ := hkeyed.hasKey t ht key hkey r hr
        rw [reading.satisfies_isIn_iff hw hne, ← hkeys,
          reading.exists_cell_iff hs hk otherColumn hmem hw]

end Keys

end Database.Serves

/-! ### Linked rows -/

/-- Two rows are linked by a relation, seen from one of its sides: one of them refers to the other
by the reference column of its side, or a row of the junction table refers to both. -/
inductive Links (d : Document) (reading : Reading) (contents : String → List Row) (r : Relation)
    (side : Side) (s t : Row) : Prop
  | there {key : Field} : r.ownsReference side = true →
      d.primaryKeyOf? (r.onSide side.opposite).objectType = some key →
      s.Refers reading (r.referenceColumn side) t key.name → Links d reading contents r side s t
  | back {key : Field} : r.ownsReference side.opposite = true →
      d.primaryKeyOf? (r.onSide side).objectType = some key →
      t.Refers reading (r.referenceColumn side.opposite) s key.name →
      Links d reading contents r side s t
  | junction {key otherKey : Field} {link : Row} : r.cardinality = .manyToMany →
      d.primaryKeyOf? (r.onSide side).objectType = some key →
      d.primaryKeyOf? (r.onSide side.opposite).objectType = some otherKey →
      link ∈ contents r.junctionTable →
      link.Refers reading (r.junctionColumn side) s key.name →
      link.Refers reading (r.junctionColumn side.opposite) t otherKey.name →
      Links d reading contents r side s t

section Links

variable {d : Document} {reading : Reading} {contents : String → List Row} {r : Relation}
  {side : Side} {s t : Row} {p q : Place}

/-- Rows that are linked from one side are linked from the other. -/
theorem Links.symm (h : Links d reading contents r side s t) :
    Links d reading contents r side.opposite t s := by
  cases h with
  | there howns hkey hrefers =>
      rw [← side.opposite_opposite] at howns hrefers
      exact .back howns hkey hrefers
  | back howns hkey hrefers =>
      rw [← side.opposite_opposite] at hkey
      exact .there howns hkey hrefers
  | junction hcard hkey hother hlink hs ht =>
      rw [← side.opposite_opposite] at hkey hs
      exact .junction hcard hother hkey hlink ht hs

/-- Seen from the other side the same rows are linked. -/
theorem links_opposite_iff :
    Links d reading contents r side.opposite t s ↔ Links d reading contents r side s t :=
  ⟨fun h => by simpa using h.symm, Links.symm⟩

variable (hside : r.onSide side = p.toEnd) (hopp : r.onSide side.opposite = q.toEnd)
include hside hopp

/-- Where one side alone owns a reference column, rows are linked by it. -/
theorem links_iff_of_owns (howns : r.ownsReference side = true)
    (hother : ¬ r.ownsReference side.opposite = true) {key : Field}
    (hkey : d.primaryKeyOf? q.1.name = some key) :
    Links d reading contents r side s t ↔
      s.Refers reading (referenceColumn p.2.name) t key.name := by
  have hcolumn : r.referenceColumn side = referenceColumn p.2.name := by
    rw [Relation.referenceColumn, hside]
    rfl
  have hkey' : d.primaryKeyOf? (r.onSide side.opposite).objectType = some key := by rwa [hopp]
  rw [← hcolumn]
  constructor
  · rintro (⟨-, hk, hrefers⟩ | ⟨howns', -, -⟩ | ⟨hcard, -, -, -, -, -⟩)
    · obtain rfl := Option.some.inj (hkey'.symm.trans hk)
      exact hrefers
    · exact absurd howns' hother
    · exact absurd hcard (RelationSet.cardinality_ne_manyToMany howns)
  · exact .there howns hkey'

/-- In a many-to-many relation rows are linked by the junction table. -/
theorem links_iff_of_manyToMany (hcard : r.cardinality = .manyToMany) {pkey qkey : Field}
    (hpkey : d.primaryKeyOf? p.1.name = some pkey) (hqkey : d.primaryKeyOf? q.1.name = some qkey) :
    Links d reading contents r side s t ↔ ∃ link ∈ contents r.junctionTable,
      link.Refers reading (r.junctionColumn side) s pkey.name ∧
      link.Refers reading (r.junctionColumn side.opposite) t qkey.name := by
  have hpkey' : d.primaryKeyOf? (r.onSide side).objectType = some pkey := by rwa [hside]
  have hqkey' : d.primaryKeyOf? (r.onSide side.opposite).objectType = some qkey := by rwa [hopp]
  constructor
  · rintro (⟨howns, -, -⟩ | ⟨howns, -, -⟩ | ⟨-, hpk, hqk, hlink, hs, ht⟩)
    · exact absurd hcard (RelationSet.cardinality_ne_manyToMany howns)
    · exact absurd hcard (RelationSet.cardinality_ne_manyToMany howns)
    · obtain rfl := Option.some.inj (hpkey'.symm.trans hpk)
      obtain rfl := Option.some.inj (hqkey'.symm.trans hqk)
      exact ⟨_, hlink, hs, ht⟩
  · rintro ⟨link, hlink, hs, ht⟩
    exact .junction hcard hpkey' hqkey' hlink hs ht

end Links

/-! ### From both ends -/

/-- Two bindings mirror each other between two tables: at all rows of the tables both resolve, and a
row of the target is reached from a row of the source exactly when that row is reached from it,
which is when the two are linked. -/
def Binding.Mirrors (db : Database) (contents : String → List Row) (there back : Binding)
    (source target : String) (linked : Row → Row → Prop) : Prop :=
  ∀ s ∈ contents source, ∀ t ∈ contents target, ∃ x y,
    Fetch.Returns (there.resolve db s) x ∧ Fetch.Returns (back.resolve db t) y ∧
      (t ∈ Resolved.rowsOf x ↔ s ∈ Resolved.rowsOf y) ∧ (t ∈ Resolved.rowsOf x ↔ linked s t)

/-- The way back is mirrored by the way there. -/
theorem Binding.Mirrors.symm {db : Database} {contents : String → List Row} {there back : Binding}
    {source target : String} {linked linked' : Row → Row → Prop}
    (h : there.Mirrors db contents back source target linked)
    (hlinked : ∀ s t, linked s t ↔ linked' t s) :
    back.Mirrors db contents there target source linked' := by
  intro t ht s hs
  obtain ⟨x, y, hx, hy, hiff, hlink⟩ := h s hs t ht
  exact ⟨y, x, hy, hx, hiff.symm, hiff.symm.trans (hlink.trans (hlinked s t))⟩

/-- Navigation along the relations is consistent.

* The fields on the two sides of a relation with a list have bindings that mirror each other.
* The fields on the two sides of a one-to-one relation on one type have bindings that resolve. Side
  B leads from a row to one that is linked to it, if there is one, and from there side A leads
  back. -/
structure Navigable (db : Database) (d : Document) (set : RelationSet) (reading : Reading)
    (contents : String → List Row) : Prop where
  bothWays : ∀ r ∈ set.relations, r.cardinality ≠ .oneToOne → ∀ side, ∃ there back,
    Binding.of d r side = .ok there ∧ Binding.of d r side.opposite = .ok back ∧
      there.Mirrors db contents back (tableName (r.onSide side).objectType)
        (tableName (r.onSide side.opposite).objectType) (Links d reading contents r side)
  thereAndBack : ∀ r ∈ set.relations, r.cardinality = .oneToOne → r.isSelfReferencing = true →
    ∃ there back, Binding.of d r .b = .ok there ∧ Binding.of d r .a = .ok back ∧
      ∀ v ∈ contents (tableName r.b.objectType), ∃ found : Option Row,
        Fetch.Returns (there.resolve db v) (found.map .row) ∧
        (∀ u, found = some u → Links d reading contents r .b v u ∧
          Fetch.Returns (back.resolve db u) (some (.row v))) ∧
        (found = none → ∀ u ∈ contents (tableName r.a.objectType),
          ¬ Links d reading contents r .b v u)

section Relations

variable {db : Database} {d : Document} {set : RelationSet} {reading : Reading}
  {contents : String → List Row} {r : Relation} {side : Side} {p q : Place}
  (hset : set.Resolves d) (h : db.Serves d set reading contents)
  (hkeyed : Keyed d reading contents)
  (hp : p ∈ d.relationFields) (hq : q ∈ d.relationFields)
  (hside : r.onSide side = p.toEnd) (hopp : r.onSide side.opposite = q.toEnd)
include hset h hkeyed hp hq hside hopp

/-- Along a many-to-many relation both ways go through the junction table, with the columns
exchanged. -/
theorem mirrors_of_manyToMany (hr : r ∈ set.relations) (hcard : r.cardinality = .manyToMany) :
    ∃ there back, Binding.of d r side = .ok there ∧ Binding.of d r side.opposite = .ok back ∧
      there.Mirrors db contents back (tableName p.1.name) (tableName q.1.name)
        (Links d reading contents r side) := by
  obtain ⟨pkey, hpkey, hplookup⟩ := hset.exists_key hp
  obtain ⟨qkey, hqkey, hqlookup⟩ := hset.exists_key hq
  have hback : r.onSide side.opposite.opposite = p.toEnd := by rwa [side.opposite_opposite]
  have hptype := (Document.mem_relationFields.mp hp).1
  have hqtype := (Document.mem_relationFields.mp hq).1
  refine ⟨_, _, Binding.of_manyToMany hside hopp hcard hplookup hqlookup,
    Binding.of_manyToMany hopp hback hcard hqlookup hplookup, fun s hs t ht => ?_⟩
  rw [side.opposite_opposite]
  obtain ⟨v, hv, hvne⟩ := hkeyed.hasKey p.1 hptype pkey hpkey s hs
  obtain ⟨w, hw, hwne⟩ := hkeyed.hasKey q.1 hqtype qkey hqkey t ht
  have htable : IsTable d set r.junctionTable := .junction hr hcard
  obtain ⟨xs, hxs, hthere⟩ := h.junction_returns hv hvne hkeyed htable hqtype hqkey
    (r.junctionColumn side) (r.junctionColumn side.opposite)
  obtain ⟨ys, hys, hback⟩ := h.junction_returns hw hwne hkeyed htable hptype hpkey
    (r.junctionColumn side.opposite) (r.junctionColumn side)
  have hlinks : t ∈ xs ↔ Links d reading contents r side s t :=
    ((hthere t).trans (and_iff_right ht)).trans
      (links_iff_of_manyToMany hside hopp hcard hplookup hqlookup).symm
  refine ⟨_, _, hxs, hys, ?_, hlinks⟩
  calc t ∈ xs
      ↔ ∃ link ∈ contents r.junctionTable,
          link.Refers reading (r.junctionColumn side) s pkey.name ∧
          link.Refers reading (r.junctionColumn side.opposite) t qkey.name :=
        (hthere t).trans (and_iff_right ht)
    _ ↔ ∃ link ∈ contents r.junctionTable,
          link.Refers reading (r.junctionColumn side.opposite) t qkey.name ∧
          link.Refers reading (r.junctionColumn side) s pkey.name := by
        simp only [and_comm]
    _ ↔ s ∈ ys := ((hback s).trans (and_iff_right hs)).symm

/-- Along a one-to-many relation the owner follows its column, by which the list looks it up. -/
theorem mirrors_of_owns (hcard : r.cardinality ≠ .oneToOne) (howns : r.ownsReference side = true) :
    ∃ there back, Binding.of d r side = .ok there ∧ Binding.of d r side.opposite = .ok back ∧
      there.Mirrors db contents back (tableName p.1.name) (tableName q.1.name)
        (Links d reading contents r side) := by
  obtain ⟨key, hkey, hlookup⟩ := hset.exists_key hq
  have hback : r.onSide side.opposite.opposite = p.toEnd := by rwa [side.opposite_opposite]
  have hqtype := (Document.mem_relationFields.mp hq).1
  have hlist := RelationSet.list_opposite hcard howns
  have hother : ¬ r.ownsReference side.opposite = true := fun h => by
    simp [(RelationSet.ownsReference_iff.mp h).1] at hlist
  rw [hopp] at hlist
  refine ⟨_, _, Binding.of_owns hside hopp howns,
    Binding.of_not_owns hopp hback (RelationSet.cardinality_ne_manyToMany howns) hother hlookup,
    fun s hs t ht => ?_⟩
  obtain ⟨v, hv, hne⟩ := hkeyed.hasKey q.1 hqtype key hkey t ht
  have htable : IsTable d set (tableName p.1.name) :=
    .objectType (Document.mem_relationFields.mp hp).1
  obtain ⟨found, hfound, hthere⟩ :=
    h.reference_returns hkeyed hqtype hkey s (referenceColumn p.2.name)
  obtain ⟨rows, hrows, hback⟩ := h.reverse_returns hv hne htable (referenceColumn p.2.name)
  rw [show q.2.list = true from hlist]
  have hrefers : t ∈ Resolved.rowsOf (found.map .row) ↔
      s.Refers reading (referenceColumn p.2.name) t key.name :=
    Resolved.mem_rowsOf_map_row.trans ((hthere t).trans (and_iff_right ht))
  refine ⟨_, _, hfound, hrows, ?_, ?_⟩
  · exact hrefers.trans ((hback s).trans (and_iff_right hs)).symm
  · exact hrefers.trans (links_iff_of_owns hside hopp howns hother hlookup).symm

/-- Along a one-to-one relation on one type, the owner leads back to the row from which it was
looked up. -/
theorem thereAndBack_of_owns (hcard : r.cardinality = .oneToOne)
    (howns : r.ownsReference side = true) (hother : ¬ r.ownsReference side.opposite = true) :
    ∃ there back, Binding.of d r side.opposite = .ok there ∧ Binding.of d r side = .ok back ∧
      ∀ v ∈ contents (tableName q.1.name), ∃ found : Option Row,
        Fetch.Returns (there.resolve db v) (found.map .row) ∧
        (∀ u, found = some u → Links d reading contents r side.opposite v u ∧
          Fetch.Returns (back.resolve db u) (some (.row v))) ∧
        (found = none → ∀ u ∈ contents (tableName p.1.name),
          ¬ Links d reading contents r side.opposite v u) := by
  obtain ⟨key, hkey, hlookup⟩ := hset.exists_key hq
  have hback : r.onSide side.opposite.opposite = p.toEnd := by rwa [side.opposite_opposite]
  have hqtype := (Document.mem_relationFields.mp hq).1
  have hsingle : q.2.list = false := by
    obtain ⟨ha, hb⟩ := RelationSet.cardinality_eq_oneToOne_iff.mp hcard
    have hend : (r.onSide side.opposite).list = false := by cases side <;> assumption
    rwa [hopp] at hend
  have hlinks : ∀ u v, Links d reading contents r side.opposite v u ↔
      u.Refers reading (referenceColumn p.2.name) v key.name := fun u v =>
    links_opposite_iff.trans (links_iff_of_owns hside hopp howns hother hlookup)
  refine ⟨_, _, Binding.of_not_owns hopp hback (RelationSet.cardinality_ne_manyToMany howns) hother
    hlookup, Binding.of_owns hside hopp howns, fun v hv => ?_⟩
  rw [hsingle]
  obtain ⟨k, hk, hne⟩ := hkeyed.hasKey q.1 hqtype key hkey v hv
  have htable : IsTable d set (tableName p.1.name) :=
    .objectType (Document.mem_relationFields.mp hp).1
  obtain ⟨found, hfound, hsome, hnone⟩ :=
    h.reverseFirst_returns hk hne htable (referenceColumn p.2.name)
  refine ⟨found, hfound, fun u hu => ?_, fun hu u hmem => ?_⟩
  · obtain ⟨-, hrefers⟩ := hsome u hu
    refine ⟨(hlinks u v).mpr hrefers, ?_⟩
    obtain ⟨back, hreturns, hmem⟩ :=
      h.reference_returns hkeyed hqtype hkey u (referenceColumn p.2.name)
    obtain rfl := (hmem v).mpr ⟨hv, hrefers⟩
    exact hreturns
  · exact mt (hlinks u v).mp (hnone hu u hmem)

end Relations

/-- **Navigation along every relation is consistent from both ends** on a database that answers
faithfully for rows that are told apart by their keys. -/
theorem navigable_of_serves {objectTypes : List ObjectType} {enumTypes : List EnumType}
    {d : Document} {set : RelationSet} (hd : Document.validated objectTypes enumTypes = .ok d)
    (hresolve : RelationSet.resolve d = .ok set) {db : Database} {reading : Reading}
    {contents : String → List Row} (h : db.Serves d set reading contents)
    (hkeyed : Keyed d reading contents) : Navigable db d set reading contents := by
  have hset := RelationSet.resolves_of_resolve hd hresolve
  constructor
  case bothWays =>
    intro r hr hcard side
    obtain ⟨p, hp, hside⟩ := hset.collected.exists_place hr side
    obtain ⟨q, hq, hopp⟩ := hset.collected.exists_place hr side.opposite
    rw [hside, hopp, p.toEnd_objectType, q.toEnd_objectType]
    by_cases hmany : r.cardinality = .manyToMany
    · exact mirrors_of_manyToMany hset h hkeyed hp hq hside hopp hr hmany
    · by_cases howns : r.ownsReference side = true
      · exact mirrors_of_owns hset h hkeyed hp hq hside hopp hcard howns
      · -- The other side is the owner, so the two ways change places.
        have hback : r.onSide side.opposite.opposite = p.toEnd := by rwa [side.opposite_opposite]
        obtain ⟨back, there, hof, hof', hmirrors⟩ := mirrors_of_owns hset h hkeyed hq hp hopp hback
          hcard (RelationSet.ownsReference_opposite hmany howns)
        rw [side.opposite_opposite] at hof'
        exact ⟨there, back, hof', hof, hmirrors.symm fun _ _ => links_opposite_iff⟩
  case thereAndBack =>
    intro r hr hcard hself
    obtain ⟨p, hp, hside⟩ := hset.collected.exists_place hr .a
    obtain ⟨q, hq, hopp⟩ := hset.collected.exists_place hr .b
    have howns : r.ownsReference .a = true ∧ ¬ r.ownsReference .b = true := by
      simp [Relation.ownsReference, hcard, hself]
    rw [show r.a = p.toEnd from hside, show r.b = q.toEnd from hopp, p.toEnd_objectType,
      q.toEnd_objectType]
    have howner := thereAndBack_of_owns hset h hkeyed hp hq hside hopp hcard howns.1 howns.2
    exact howner

/-- Rows of the library: two authors, one the mentor of the other, two books, one of them tagged. -/
def libraryRows (table : String) : List Row :=
  if table = "authors" then
    [[("id", .string "ada")], [("id", .string "bob"), ("mentor_id", .string "ada")]]
  else if table = "books" then
    [[("id", .string "loom"), ("author_id", .string "ada")],
      [("id", .string "ballads"), ("author_id", .null)]]
  else if table = "tags" then [[("id", .string "machines")]]
  else if table = "Tagging" then [[("book_id", .string "loom"), ("tag_id", .string "machines")]]
  else []

/-- Navigation in the library is consistent on a database that holds these rows. -/
theorem library_navigable :
    Document.validated Document.library.objectTypes [] = .ok .library ∧
      RelationSet.resolve .library = .ok .library ∧
      (Database.holding .byText "id" libraryRows).Serves .library .library .byText libraryRows ∧
      Keyed .library .byText libraryRows ∧
      Navigable (.holding .byText "id" libraryRows) .library .library .byText libraryRows := by
  have hd : Document.validated Document.library.objectTypes [] = .ok .library := by decide +kernel
  have hresolve : RelationSet.resolve .library = .ok .library := by decide +kernel
  have hcolumn : ∀ t ∈ Document.library.objectTypes, ∀ key, t.primaryKey? = some key →
      key.name = "id" := by decide +kernel
  have hserves := Database.holding_serves hcolumn .library .byText libraryRows
  have hkeyed : Keyed .library .byText libraryRows := keyed_byText hcolumn (by decide +kernel)
  exact ⟨hd, hresolve, hserves, hkeyed, navigable_of_serves hd hresolve hserves hkeyed⟩

end DataModel.Api
