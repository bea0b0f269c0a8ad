import DataModel.Api.Binding
import DataModel.Proofs.Relation.Resolvability

/-!
# The bindings of a resolved document

Every relation field of a resolved document has a binding, and which of the three kinds it is
follows from the place of the reference columns: a junction for two lists, a reference where the
field owns the column, a reverse look-up where its counterpart does.

## Main results

* `Binding.of_manyToMany`, `Binding.of_owns`, `Binding.of_not_owns`: the binding of each kind, in
  terms of the field and its counterpart.
* `Binding.exists_of`: every side of every relation has a binding.
-/

namespace DataModel.Api.Binding

variable {d : Document} {set : RelationSet} {r : Relation} {side : Side} {p q : Place}

/-- The primary key that a binding names is that of the type. -/
theorem primaryKey_eq_ok {typeName : String} {key : Field}
    (h : d.primaryKeyOf? typeName = some key) : primaryKey d typeName = .ok key.name := by
  simp only [primaryKey, h]

section Kinds

variable (hside : r.onSide side = p.toEnd) (hopp : r.onSide side.opposite = q.toEnd)
include hside hopp

/-- The binding of a field of a many-to-many relation goes through the junction table. -/
theorem of_manyToMany (hcard : r.cardinality = .manyToMany) {pkey qkey : Field}
    (hpkey : d.primaryKeyOf? p.1.name = some pkey) (hqkey : d.primaryKeyOf? q.1.name = some qkey) :
    Binding.of d r side = .ok (.junction r.name (r.junctionColumn side)
      (r.junctionColumn side.opposite) pkey.name (tableName q.1.name) qkey.name) := by
  simp only [Binding.of, hcard, hside, hopp]
  have hp : primaryKey d p.toEnd.objectType = .ok pkey.name := primaryKey_eq_ok hpkey
  have hq : primaryKey d q.toEnd.objectType = .ok qkey.name := primaryKey_eq_ok hqkey
  rw [if_pos trivial, hp, hq]
  rfl

/-- The binding of a field that owns a reference column follows it. -/
theorem of_owns (howns : r.ownsReference side = true) :
    Binding.of d r side = .ok (.reference (tableName q.1.name) (referenceColumn p.2.name)) := by
  have hcard := RelationSet.cardinality_ne_manyToMany howns
  simp only [Binding.of, if_neg hcard, if_pos howns, Relation.referenceColumn, hside, hopp]
  rfl

/-- The binding of a field whose counterpart owns the reference column looks it up in reverse. -/
theorem of_not_owns (hcard : r.cardinality ≠ .manyToMany) (howns : ¬ r.ownsReference side = true)
    {pkey : Field} (hpkey : d.primaryKeyOf? p.1.name = some pkey) :
    Binding.of d r side = .ok (.reverse (tableName q.1.name) (referenceColumn q.2.name) pkey.name
      p.2.list) := by
  have hp : primaryKey d p.toEnd.objectType = .ok pkey.name := primaryKey_eq_ok hpkey
  simp only [Binding.of, if_neg hcard, if_neg howns, Relation.referenceColumn, hside, hopp, hp]
  rfl

end Kinds

/-- **Every side of every relation** of a resolved document has a binding. -/
theorem exists_of (h : set.Resolves d) (hr : r ∈ set.relations) (side : Side) :
    ∃ binding, Binding.of d r side = .ok binding := by
  obtain ⟨p, hp, hside⟩ := h.collected.exists_place hr side
  obtain ⟨q, hq, hopp⟩ := h.collected.exists_place hr side.opposite
  obtain ⟨pkey, -, hpkey⟩ := h.exists_key hp
  obtain ⟨qkey, -, hqkey⟩ := h.exists_key hq
  by_cases hcard : r.cardinality = .manyToMany
  · exact ⟨_, of_manyToMany hside hopp hcard hpkey hqkey⟩
  · by_cases howns : r.ownsReference side = true
    · exact ⟨_, of_owns hside hopp howns⟩
    · exact ⟨_, of_not_owns hside hopp hcard howns hpkey⟩

end DataModel.Api.Binding
