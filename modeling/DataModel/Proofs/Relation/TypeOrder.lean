import DataModel.Proofs.Relation.Reordering

/-!
# The order of object types

Documents that declare the same types, the object types perhaps in another order, have the very same
relation fields. Which of these may pair with which is a matter of membership, so acceptance and the
conditions for resolution carry over without any condition. A relation between two types may be met
from its other side. One between two fields of a single type is not: which of its fields comes first
is decided within the type, whose fields keep their order.

## Main results

* `Document.SameTypes.validated`: acceptance does not depend on the order of the object types.
* `Document.SameTypes.resolves_iff`: nor does whether there are relations.
* `RelationSet.mem_or_swap_mem_of_sameTypes`: a relation is the same in the other order, or it joins
  two types and has its sides exchanged.
* `RelationSet.forField?_of_sameTypes`: where a field is found in the other order.
-/

open scoped List

namespace DataModel

/-- The documents declare the same types, the object types perhaps in another order. -/
structure Document.SameTypes (d d' : Document) : Prop where
  objectTypes : d'.objectTypes ~ d.objectTypes
  enumTypes : d'.enumTypes = d.enumTypes

namespace Document.SameTypes

variable {d d' : Document}

/-- Documents declare the same types in both directions. -/
theorem symm (h : d.SameTypes d') : d'.SameTypes d :=
  ⟨h.objectTypes.symm, h.enumTypes.symm⟩

/-- The order of the object types is all that differs. -/
theorem reorders (h : d.SameTypes d') : d.Reorders d' := by
  refine ⟨?_, h.enumTypes⟩
  rw [Multiset.coe_eq_coe.mpr h.objectTypes]
  exact Multiset.rel_refl_of_refl_on fun t _ => ⟨rfl, rfl, .refl t.fields⟩

/-- The relation fields are the same in another order. -/
theorem relationFields_perm (h : d.SameTypes d') : d'.relationFields ~ d.relationFields :=
  h.objectTypes.flatMap_right _

/-- The documents have the same relation fields. -/
theorem mem_relationFields (h : d.SameTypes d') {p : Place} :
    p ∈ d'.relationFields ↔ p ∈ d.relationFields :=
  h.relationFields_perm.mem_iff

/-- An enum type is found in either order. -/
theorem enumType?_eq (h : d.SameTypes d') (name : String) :
    d'.enumType? name = d.enumType? name := by
  rw [enumType?, enumType?, h.enumTypes]

/-! ### Acceptance -/

/-- The type names are distinct in either order. -/
theorem typeNames_nodup (h : d.SameTypes d') (hd : d.typeNames.Nodup) : d'.typeNames.Nodup := by
  have hperm : d'.typeNames ~ d.typeNames := by
    rw [typeNames, typeNames, h.enumTypes]
    exact (h.objectTypes.map _).append_right _
  exact hperm.nodup_iff.mpr hd

/-- An object type is found in either order, since its name is its own. -/
theorem objectType?_eq (h : d.SameTypes d') (hd : d.typeNames.Nodup) (name : String) :
    d'.objectType? name = d.objectType? name := by
  have hnames : (d.objectTypes.map (·.name)).Nodup := (List.nodup_append.mp hd).1
  have hnames' : (d'.objectTypes.map (·.name)).Nodup :=
    (List.nodup_append.mp (h.typeNames_nodup hd)).1
  refine Option.ext fun t => ?_
  rw [objectType?, objectType?, List.find?_name_eq_some_iff hnames',
    List.find?_name_eq_some_iff hnames, h.objectTypes.mem_iff]

/-- The primary key of a type is found in either order. -/
theorem primaryKeyOf?_eq (h : d.SameTypes d') (hd : d.typeNames.Nodup) (name : String) :
    d'.primaryKeyOf? name = d.primaryKeyOf? name := by
  rw [primaryKeyOf?, primaryKeyOf?, h.objectType?_eq hd]

/-- What is wrong with a default depends on enum types only. -/
theorem defaultFault?_eq (h : d.SameTypes d') : d'.defaultFault? = d.defaultFault? := by
  obtain ⟨objectTypes, enumTypes⟩ := d
  obtain ⟨objectTypes', enumTypes'⟩ := d'
  obtain rfl : enumTypes' = enumTypes := h.enumTypes
  rfl

/-- A field passes its check in either order. -/
theorem checkField_eq (h : d.SameTypes d') (hd : d.typeNames.Nodup) (t : ObjectType) (f : Field) :
    d'.checkField t f = d.checkField t f := by
  have hkind : d'.kindIsKnown f = d.kindIsKnown f := by
    simp only [kindIsKnown, h.objectType?_eq hd, h.enumType?_eq]
  rw [checkField, checkField, hkind, h.defaultFault?_eq]

/-- The fields of a type pass their checks in either order. -/
theorem checkFields_eq (h : d.SameTypes d') (hd : d.typeNames.Nodup) (t : ObjectType)
    (seen : List String) (fields : List Field) :
    d'.checkFields t seen fields = d.checkFields t seen fields := by
  induction fields generalizing seen with
  | nil => rfl
  | cons f rest ih => rw [checkFields, checkFields, h.checkField_eq hd, ih]

/-- **Acceptance** does not depend on the order of the object types. -/
theorem validated {objectTypes objectTypes' : List ObjectType} {enumTypes : List EnumType}
    (hperm : objectTypes' ~ objectTypes) (hd : Document.validated objectTypes enumTypes = .ok d) :
    Document.validated objectTypes' enumTypes = .ok ⟨objectTypes', enumTypes⟩ ∧
      d.SameTypes ⟨objectTypes', enumTypes⟩ := by
  obtain ⟨_, hcheck, heq⟩ := Except.bind_eq_ok_iff.mp hd
  obtain rfl := Except.pure_eq_ok_iff.mp heq
  have h : SameTypes ⟨objectTypes, enumTypes⟩ ⟨objectTypes', enumTypes⟩ := ⟨hperm, rfl⟩
  obtain ⟨hnames, henums, hobjects⟩ := check_eq_ok_iff.mp hcheck
  refine ⟨Except.bind_eq_ok_iff.mpr ⟨(), check_eq_ok_iff.mpr ⟨h.typeNames_nodup hnames, henums,
    fun t ht => ?_⟩, rfl⟩, h⟩
  rw [← hobjects t (hperm.mem_iff.mp ht), checkObjectType, checkObjectType,
    h.checkFields_eq hnames]

/-! ### The conditions for resolution -/

/-- Candidates are the same. -/
theorem isCandidate_iff (h : d.SameTypes d') {p q : Place} :
    d'.IsCandidate p q ↔ d.IsCandidate p q :=
  ⟨fun hq => { hq with mem := h.mem_relationFields.mp hq.mem },
    fun hq => { hq with mem := h.mem_relationFields.mpr hq.mem }⟩

/-- A field has its columns in either order. -/
theorem hasColumn_iff (h : d.SameTypes d') {t : ObjectType} {f : Field} {column : String} :
    d'.HasColumn t f column ↔ d.HasColumn t f column := by
  have howns : d'.OwnsReference (t, f) ↔ d.OwnsReference (t, f) := by
    simp only [OwnsReference, h.isCandidate_iff]
  constructor
  · rintro (hvalue | ⟨hkind, hreference⟩)
    · exact .value hvalue
    · exact .reference hkind (howns.mp hreference)
  · rintro (hvalue | ⟨hkind, hreference⟩)
    · exact .value hvalue
    · exact .reference hkind (howns.mpr hreference)

/-- The conditions for resolution do not depend on the order of the object types. -/
theorem resolvable (h : d.SameTypes d') (hres : d.Resolvable) : d'.Resolvable where
  hints p hp hint hhint := by
    rw [h.relationFields_perm.countP_eq]
    exact hres.hints p (h.mem_relationFields.mp hp) hint hhint
  candidate p hp := by
    simpa only [h.isCandidate_iff] using hres.candidate p (h.mem_relationFields.mp hp)
  mutually p hp q r hpq hqr :=
    hres.mutually p (h.mem_relationFields.mp hp) q r (h.isCandidate_iff.mp hpq)
      (h.isCandidate_iff.mp hqr)
  names p p' hp hp' q q' hpq hpq' :=
    hres.names p p' (h.mem_relationFields.mp hp) (h.mem_relationFields.mp hp') q q'
      (h.isCandidate_iff.mp hpq) (h.isCandidate_iff.mp hpq')
  keys p hp q hpq := hres.keys p (h.mem_relationFields.mp hp) q (h.isCandidate_iff.mp hpq)
  columns t ht f hf g hg column hfc hgc :=
    hres.columns t (h.objectTypes.mem_iff.mp ht) f hf g hg column (h.hasColumn_iff.mp hfc)
      (h.hasColumn_iff.mp hgc)

/-- **Whether a document can be resolved** does not depend on the order of its object types. -/
theorem resolves_iff (h : d.SameTypes d') (hd : d.Valid) (hd' : d'.Valid) :
    (∃ set, RelationSet.resolve d = .ok set) ↔ ∃ set', RelationSet.resolve d' = .ok set' :=
  ⟨fun ⟨_, hset⟩ => RelationSet.exists_resolve_of_resolvable hd'
      (h.resolvable (RelationSet.resolvable_of_resolve hd hset)),
    fun ⟨_, hset⟩ => RelationSet.exists_resolve_of_resolvable hd
      (h.symm.resolvable (RelationSet.resolvable_of_resolve hd' hset))⟩

end Document.SameTypes

/-! ### Relations between two types -/

/-- Two lists stay two lists when the sides are exchanged. -/
theorem Relation.cardinality_swap_eq_manyToMany_iff {r : Relation} :
    r.swap.cardinality = .manyToMany ↔ r.cardinality = .manyToMany := by
  rw [RelationSet.cardinality_eq_manyToMany_iff, RelationSet.cardinality_eq_manyToMany_iff,
    and_comm]
  rfl

/-- A field of a relation between two types owns its reference column on either side. -/
theorem Relation.ownsReference_swap_of_two_types {r : Relation}
    (h : r.isSelfReferencing = false) (side : Side) :
    r.swap.ownsReference side = r.ownsReference side.opposite :=
  ownsReference_swap (fun hself => absurd (h.symm.trans hself) Bool.false_ne_true) side

/-! ### The relations -/

namespace RelationSet

variable {d d' : Document} {set set' : RelationSet}

/-- The two fields of a relation on one type stand in the same order in both documents, so the
relation is met from the same side. -/
theorem swap_notMem_of_isSelfReferencing (h : d.SameTypes d') (hd : d.Valid) (hd' : d'.Valid)
    (hset : Collected d d.relationFields set) (hset' : Collected d' d'.relationFields set')
    {r : Relation} (hr : r ∈ set.relations) (hself : r.isSelfReferencing = true) :
    r.swap ∉ set'.relations := by
  intro hswap
  obtain ⟨p, hp, q, hpq, horder, rfl⟩ := hset.pairs r hr
  obtain ⟨p', hp', q', hpq', horder', heq⟩ := hset'.pairs _ hswap
  obtain ⟨ha, hb, -⟩ := Relation.mk.inj heq
  have hq : q ∈ d'.relationFields := h.mem_relationFields.mpr hpq.mem
  have hp₁ : p ∈ d'.relationFields := h.mem_relationFields.mpr hp
  obtain rfl : q = p' := (hd'.toEnd_inj hq hp').mp ha
  obtain rfl : p = q' := (hd'.toEnd_inj hp₁ hpq'.mem).mp hb
  have htype : p.1 = q.1 := List.eq_of_map_nodup hd.objectNames_nodup
    (Document.mem_relationFields.mp hp).1 (Document.mem_relationFields.mp hpq.mem).1
    (beq_iff_eq.mp hself)
  -- both orders of the relation fields show the one order of the fields of the type
  have hfields := (hd.pair_sublist_iff hp hpq.mem htype hpq.ne.symm).mp horder
  have hback := (hd'.pair_sublist_iff hp₁ hq htype hpq.ne.symm).mpr hfields
  exact hd'.relationFields_nodup.pair_sublist_asymm horder' hback

/-- **A relation is the same in the other order**, or it joins two types and has its sides
exchanged. -/
theorem mem_or_swap_mem_of_sameTypes (h : d.SameTypes d') (hd : d.Valid) (hd' : d'.Valid)
    (hset : Collected d d.relationFields set) (hset' : Collected d' d'.relationFields set')
    {r : Relation} (hr : r ∈ set.relations) :
    r ∈ set'.relations ∨ (r.swap ∈ set'.relations ∧ r.isSelfReferencing = false) := by
  refine (Collected.mem_or_swap_mem h.reorders hd hd' hset hset' hr).imp_right fun hswap => ?_
  refine ⟨hswap, ?_⟩
  by_contra hself
  exact swap_notMem_of_isSelfReferencing h hd hd' hset hset' hr (by simpa using hself) hswap

/-- A relation of the one order as the other order has it: the same, or one between two types with
its sides exchanged. -/
theorem oriented_cases (h : d.SameTypes d') (hd : d.Valid) (hd' : d'.Valid)
    (hset : Collected d d.relationFields set) (hset' : Collected d' d'.relationFields set')
    {r : Relation} (hr : r ∈ set.relations) :
    set'.oriented r = r ∨ (set'.oriented r = r.swap ∧ r.isSelfReferencing = false) := by
  unfold oriented
  split
  · exact Or.inl rfl
  · rcases mem_or_swap_mem_of_sameTypes h hd hd' hset hset' hr with hmem | ⟨-, hself⟩
    · exact absurd hmem ‹_›
    · exact Or.inr ⟨rfl, hself⟩

/-- **A field is found in the other order** on the same side of the same relation, or on the
opposite side of one between two types whose sides are exchanged. -/
theorem forField?_of_sameTypes (h : d.SameTypes d') (hd : d.Valid) (hd' : d'.Valid)
    (hset : Collected d d.relationFields set) (hset' : Collected d' d'.relationFields set')
    {t f : String} {r : Relation} {side : Side} (hfind : set.forField? t f = some (r, side)) :
    set'.forField? t f = some (r, side) ∨
      (set'.forField? t f = some (r.swap, side.opposite) ∧ r.isSelfReferencing = false) := by
  obtain ⟨hr, hfield⟩ := of_forField?_eq_some hfind
  rcases mem_or_swap_mem_of_sameTypes h hd hd' hset hset' hr with hmem | ⟨hmem, hself⟩
  · exact Or.inl ((hset'.forField?_eq_some_iff hd').mpr ⟨hmem, hfield⟩)
  · refine Or.inr ⟨(hset'.forField?_eq_some_iff hd').mpr ⟨hmem, ?_⟩, hself⟩
    rwa [Relation.onSide_swap, Side.opposite_opposite]

end RelationSet

end DataModel
