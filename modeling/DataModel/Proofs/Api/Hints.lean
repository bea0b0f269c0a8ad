import DataModel.Proofs.Api.Binding
import DataModel.Proofs.Sql.Hints

/-!
# What hints decide

Beside pairing fields, a hint names the relation, and the name of a relation is the name of its
junction table. A script and the bindings of the relation fields are two views of the same tables,
so both know that name, and neither uses it for anything else.

## Main results

* `Binding.of_renamed`: the binding of a field under another hint goes through another junction
  table.
* `hints_name_junctions_only`: **documents that differ in their hints and pair the same fields have
  the same scripts and bindings, except for the names of junction tables.**
-/

namespace DataModel

namespace Api

/-- The binding with its junction table under another name. -/
def Binding.through (junction : String) : Binding → Binding
  | .junction _ ownColumn otherColumn primaryKey targetTable targetPrimaryKey =>
    .junction junction ownColumn otherColumn primaryKey targetTable targetPrimaryKey
  | binding => binding

variable {d d' : Document} {set set' : RelationSet}

/-- The primary key that a binding names does not depend on hints. -/
theorem Binding.primaryKey_withoutHints (d : Document) (objectType : String) :
    primaryKey d.withoutHints objectType = primaryKey d objectType := by
  simp only [primaryKey, d.primaryKeyOf?_withoutHints]
  cases d.primaryKeyOf? objectType <;> rfl

/-- **The binding of a field** under another hint goes through the junction table of that name, if
it goes through one, and is the same otherwise. -/
theorem Binding.of_renamed (hsame : d'.withoutHints = d.withoutHints) {r r' : Relation}
    (hr : r'.withoutHint = r.withoutHint) {side : Side} {binding : Binding}
    (h : Binding.of d r side = .ok binding) :
    Binding.of d' r' side = .ok (binding.through r'.junctionTable) := by
  obtain ⟨hint, rfl⟩ := Relation.exists_hint_of_withoutHint_eq hr
  have hkey : ∀ objectType, primaryKey d' objectType = primaryKey d objectType :=
    fun objectType => by
      rw [← primaryKey_withoutHints d', hsame, primaryKey_withoutHints]
  unfold Binding.of at h ⊢
  split at h
  case isTrue hcard =>
    obtain ⟨ownKey, hown, h⟩ := Except.bind_eq_ok_iff.mp h
    obtain ⟨otherKey, hother, h⟩ := Except.bind_eq_ok_iff.mp h
    obtain rfl := Except.pure_eq_ok_iff.mp h
    refine (if_pos hcard).trans (Except.bind_eq_ok_iff.mpr ⟨ownKey, (hkey _).trans hown, ?_⟩)
    exact Except.bind_eq_ok_iff.mpr ⟨otherKey, (hkey _).trans hother, rfl⟩
  case isFalse hcard =>
    refine (if_neg hcard).trans ?_
    split at h
    case isTrue howns =>
      obtain rfl := Except.ok.inj h
      exact if_pos howns
    case isFalse howns =>
      obtain ⟨ownKey, hown, h⟩ := Except.bind_eq_ok_iff.mp h
      obtain rfl := Except.pure_eq_ok_iff.mp h
      refine (if_neg howns).trans ?_
      exact Except.bind_eq_ok_iff.mpr ⟨ownKey, (hkey _).trans hown, rfl⟩

/-- **Hints name junction tables and nothing else.** Two accepted documents that differ in the hints
of their fields, and whose relations pair the same fields, have scripts that are equal statement by
statement, except that a junction table and its foreign keys bear the name of the relation. Their
relation fields have the same bindings, except that a junction table is called by that name. -/
theorem hints_name_junctions_only {objectTypes objectTypes' : List ObjectType}
    {enumTypes enumTypes' : List EnumType}
    (hd : Document.validated objectTypes enumTypes = .ok d)
    (hd' : Document.validated objectTypes' enumTypes' = .ok d')
    (h : RelationSet.resolve d = .ok set) (h' : RelationSet.resolve d' = .ok set')
    (hsame : d'.withoutHints = d.withoutHints) (hpairs : set.SamePairs set') :
    (∃ script script', Sql.statements d set = .ok script ∧ Sql.statements d' set' = .ok script' ∧
      List.Forall₂ (Sql.SameUpToName d d' set set') script script') ∧
    ∀ t ∈ d.objectTypes, ∀ f ∈ t.relationFields, ∃ r r' side binding,
      set.forField? t.name f.name = some (r, side) ∧
      set'.forField? t.name f.name = some (r', side) ∧
      Binding.of d r side = .ok binding ∧
      Binding.of d' r' side = .ok (binding.through r'.junctionTable) := by
  have hresolves := RelationSet.resolves_of_resolve hd h
  have hresolves' := RelationSet.resolves_of_resolve hd' h'
  have hset := RelationSet.withoutHints_eq_of_samePairs hresolves.valid hresolves'.valid
    hresolves.collected hresolves'.collected hsame hpairs
  refine ⟨Sql.exists_scripts_renamed hresolves hsame hset, fun t ht f hf => ?_⟩
  obtain ⟨r, side, -, hfind, hr, -⟩ :=
    hresolves.exists_relation (p := (t, f)) (Document.mem_relationFields.mpr ⟨ht, hf⟩)
  obtain ⟨r', hfind', hrr'⟩ := RelationSet.exists_forField?_of_withoutHints_eq hset hfind
  obtain ⟨binding, hbinding⟩ := Binding.exists_of hresolves hr side
  exact ⟨r, r', side, binding, hfind, hfind', hbinding, Binding.of_renamed hsame hrr' hbinding⟩

/-- The library with its hint and the library without it differ in the name of a junction table. -/
theorem library_hint_names_junction :
    (∃ script script', Sql.statements .library .library = .ok script ∧
      Sql.statements Document.library.withoutHints RelationSet.library.withoutHints = .ok script' ∧
      List.Forall₂ (Sql.SameUpToName .library Document.library.withoutHints .library
        RelationSet.library.withoutHints) script script') ∧
    ∀ t ∈ Document.library.objectTypes, ∀ f ∈ t.relationFields, ∃ r r' side binding,
      RelationSet.library.forField? t.name f.name = some (r, side) ∧
      RelationSet.library.withoutHints.forField? t.name f.name = some (r', side) ∧
      Binding.of .library r side = .ok binding ∧
      Binding.of Document.library.withoutHints r' side =
        .ok (binding.through r'.junctionTable) := by
  have hd : Document.validated Document.library.objectTypes [] = .ok .library := by decide +kernel
  have h : RelationSet.resolve .library = .ok .library := by decide +kernel
  have hd' : Document.validated Document.library.withoutHints.objectTypes [] =
      .ok Document.library.withoutHints := by decide +kernel
  have h' : RelationSet.resolve Document.library.withoutHints =
      .ok RelationSet.library.withoutHints := by decide +kernel
  exact hints_name_junctions_only hd hd' h h' (by decide +kernel)
    (RelationSet.samePairs_withoutHints .library)

end Api

end DataModel
