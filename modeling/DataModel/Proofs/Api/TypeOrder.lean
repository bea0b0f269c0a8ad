import DataModel.Proofs.Api.Binding
import DataModel.Proofs.Sql.TypeOrder

/-!
# The same types in another order

Which end of a relation is side A depends on the order of the object types, and side A decides much:
which of two single values on one type owns a column, and what the two columns of a junction table
are called by. Reordering the object types still changes nothing but the order of the artifacts. A
relation that changes sides joins two different types, where both single values own a column and
each junction column is named after a type.

## Main results

* `Binding.of_swap`: the binding of a field does not depend on the side that the field is on.
* `reordering_reorders_artifacts`: **the same object types in another order have the same artifacts
  in another order.**
-/

open scoped List

namespace DataModel

namespace Api

variable {d d' : Document} {set set' : RelationSet}

/-- **The binding of a field** of a relation between two types does not depend on the side that the
field is on. -/
theorem Binding.of_swap (d : Document) {r : Relation} (hself : r.isSelfReferencing = false)
    (side : Side) : Binding.of d r.swap side = Binding.of d r side.opposite := by
  have htable : r.swap.junctionTable = r.junctionTable := r.name_swap
  simp only [Binding.of, Relation.cardinality_swap_eq_manyToMany_iff, htable,
    Relation.ownsReference_swap_of_two_types hself, Relation.onSide_swap,
    Relation.junctionColumn_swap, Relation.referenceColumn_swap]

/-- The binding of a field does not depend on the order of the types. -/
theorem Binding.of_of_sameTypes (h : d.SameTypes d') (hd : d.Valid) (r : Relation) (side : Side) :
    Binding.of d' r side = Binding.of d r side := by
  simp only [Binding.of, primaryKey, h.primaryKeyOf?_eq hd.typeNames_nodup]

/-- A field has the same binding in either order. -/
theorem Binding.exists_of_sameTypes (h : d.SameTypes d') (hset : set.Resolves d)
    (hset' : set'.Resolves d') {p : Place} (hp : p ∈ d.relationFields) :
    ∃ r side r' side' binding, set.forField? p.1.name p.2.name = some (r, side) ∧
      set'.forField? p.1.name p.2.name = some (r', side') ∧
      Binding.of d r side = .ok binding ∧ Binding.of d' r' side' = .ok binding := by
  obtain ⟨r, side, -, hfind, hr, -⟩ := hset.exists_relation hp
  obtain ⟨binding, hbinding⟩ := Binding.exists_of hset hr side
  rcases RelationSet.forField?_of_sameTypes h hset.valid hset'.valid hset.collected
    hset'.collected hfind with hfind' | ⟨hfind', hself⟩
  · refine ⟨r, side, r, side, binding, hfind, hfind', hbinding, ?_⟩
    rw [Binding.of_of_sameTypes h hset.valid, hbinding]
  · refine ⟨r, side, r.swap, side.opposite, binding, hfind, hfind', hbinding, ?_⟩
    rw [Binding.of_of_sameTypes h hset.valid, Binding.of_swap d hself, Side.opposite_opposite,
      hbinding]

/-- **The same object types in another order** have the same artifacts in another order. The
document with its object types in another order is accepted, too, and it can be resolved exactly
when the first one can. Then both have a script, and the scripts have the same table for every
object type, the same alterations in some order, and the same junction tables in some order and up
to an exchange of the lines of their two sides. Every relation field has the same binding. -/
theorem reordering_reorders_artifacts {objectTypes objectTypes' : List ObjectType}
    {enumTypes : List EnumType} (hd : Document.validated objectTypes enumTypes = .ok d)
    (hperm : objectTypes' ~ objectTypes) :
    ∃ d', Document.validated objectTypes' enumTypes = .ok d' ∧
      ((∃ set, RelationSet.resolve d = .ok set) ↔ ∃ set', RelationSet.resolve d' = .ok set') ∧
      ∀ set set', RelationSet.resolve d = .ok set → RelationSet.resolve d' = .ok set' →
        (∃ tables others tables' others', Sql.statements d set = .ok (tables ++ others) ∧
          Sql.statements d' set' = .ok (tables' ++ others') ∧
          Sql.SameUpToOrder d d' set set' tables others tables' others') ∧
        ∀ t ∈ d.objectTypes, ∀ f ∈ t.relationFields, ∃ r side r' side' binding,
          set.forField? t.name f.name = some (r, side) ∧
          set'.forField? t.name f.name = some (r', side') ∧
          Binding.of d r side = .ok binding ∧ Binding.of d' r' side' = .ok binding := by
  obtain ⟨hd', h⟩ := Document.SameTypes.validated hperm hd
  have hiff := h.resolves_iff (Document.valid_of_validated hd)
    (Document.valid_of_validated hd')
  refine ⟨_, hd', hiff, fun set set' hresolve hresolve' => ?_⟩
  have hset := RelationSet.resolves_of_resolve hd hresolve
  have hset' := RelationSet.resolves_of_resolve hd' hresolve'
  refine ⟨Sql.exists_scripts_reordered h hset hset', fun t ht f hf => ?_⟩
  exact Binding.exists_of_sameTypes h hset hset' (p := (t, f))
    (Document.mem_relationFields.mpr ⟨ht, hf⟩)

end Api

/-! ### The library in reverse -/

/-- The library with its object types in reverse. -/
def Document.libraryReversed : Document := ⟨Document.library.objectTypes.reverse, []⟩

/-- The relations of the library in reverse. Those between two types are met from their other
sides, and the one of authors with their students is not. -/
def RelationSet.libraryReversed : RelationSet where
  relations :=
    [ ⟨⟨"Tag", "books", true, false⟩, ⟨"Book", "tags", true, false⟩, some "Tagging"⟩,
      ⟨⟨"Book", "author", false, false⟩, ⟨"Author", "books", true, false⟩, none⟩,
      ⟨⟨"Author", "mentor", false, false⟩, ⟨"Author", "student", false, false⟩, none⟩ ]

/-- The library in reverse has the artifacts of the library in another order. -/
theorem Api.library_artifacts_reordered :
    (∃ tables others tables' others', Sql.statements .library .library = .ok (tables ++ others) ∧
      Sql.statements .libraryReversed .libraryReversed = .ok (tables' ++ others') ∧
      Sql.SameUpToOrder .library .libraryReversed .library .libraryReversed tables others tables'
        others') ∧
    ∀ t ∈ Document.library.objectTypes, ∀ f ∈ t.relationFields, ∃ r side r' side' binding,
      RelationSet.library.forField? t.name f.name = some (r, side) ∧
      RelationSet.libraryReversed.forField? t.name f.name = some (r', side') ∧
      Binding.of .library r side = .ok binding ∧
      Binding.of .libraryReversed r' side' = .ok binding := by
  have hd : Document.validated Document.library.objectTypes [] = .ok .library := by decide +kernel
  have hd' : Document.validated Document.library.objectTypes.reverse [] = .ok .libraryReversed := by
    decide +kernel
  have h : RelationSet.resolve .library = .ok .library := by decide +kernel
  have h' : RelationSet.resolve .libraryReversed = .ok .libraryReversed := by decide +kernel
  obtain ⟨d', hvalidated, -, hsame⟩ :=
    reordering_reorders_artifacts hd (List.reverse_perm Document.library.objectTypes)
  obtain rfl := Except.ok.inj (hd'.symm.trans hvalidated)
  exact hsame _ _ h h'

end DataModel
