import DataModel.Proofs.Relation.Resolvability
import Mathlib.Data.Multiset.MapFold

/-!
# The order of declarations

Resolution walks over types and fields in the order of their declaration, and which of two fields
becomes side A depends on it. What the relations say does not. A field corresponds to the same field
of the same type in the other order (`Place.Reorders`), candidates correspond to candidates, and so
the conditions under which a document can be resolved carry over, as do the relations themselves,
each of them perhaps with its sides exchanged.

There is one exception. Of two single values on one type that face each other, the first one owns
the reference column. Documents in which this cannot occur have at most one single value on a type
that refers to the type itself (`Document.AtMostOneLoop`).

## Main results

* `Document.Reorders.exists_candidate`: candidates correspond to candidates.
* `Document.Reorders.resolvable`: the conditions for resolution carry over.
* `RelationSet.map_oriented_perm`: the relations of one order are those of the other, up to their
  sides.
* `RelationSet.resolve_reorders`: **relations do not depend on the order of declarations.**
-/

open scoped List

namespace DataModel

/-! ### The same declarations in another order -/

/-- The object types differ in the order of their fields only. -/
structure ObjectType.Reorders (t t' : ObjectType) : Prop where
  name : t'.name = t.name
  options : t'.options = t.options
  fields : t'.fields ~ t.fields

namespace ObjectType.Reorders

variable {t t' : ObjectType}

/-- Types that differ in order do so in both directions. -/
theorem symm (h : t.Reorders t') : t'.Reorders t :=
  ⟨h.name.symm, h.options.symm, h.fields.symm⟩

/-- The order does not matter for which fields are relations. -/
theorem mem_relationFields (h : t.Reorders t') {f : Field} :
    f ∈ t'.relationFields ↔ f ∈ t.relationFields :=
  (h.fields.filter _).mem_iff

/-- The order does not matter for whether there is an identifier. -/
theorem hasKey (h : t.Reorders t') : Document.HasKey t → Document.HasKey t' :=
  fun ⟨f, hf, hid⟩ => ⟨f, h.fields.mem_iff.mpr hf, hid⟩

end ObjectType.Reorders

/-- The documents differ in the order of their object types and of the fields of these only. -/
structure Document.Reorders (d d' : Document) : Prop where
  objectTypes :
    Multiset.Rel ObjectType.Reorders (d.objectTypes : Multiset ObjectType) d'.objectTypes
  enumTypes : d'.enumTypes = d.enumTypes

/-- The same field of types that differ in the order of their fields only. -/
structure Place.Reorders (p p' : Place) : Prop where
  type : p.1.Reorders p'.1
  field : p'.2 = p.2

namespace Place.Reorders

variable {p p' q q' : Place}

/-- Places correspond in both directions. -/
theorem symm (h : p.Reorders p') : p'.Reorders p :=
  ⟨h.type.symm, h.field.symm⟩

/-- Corresponding places are the same end of a relation. -/
theorem toEnd_eq (h : p.Reorders p') : p'.toEnd = p.toEnd := by
  rw [Place.toEnd, Place.toEnd, RelationEnd.of, RelationEnd.of, h.type.name, h.field]

/-- Corresponding places form the same relation. -/
theorem pairing_eq (hp : p.Reorders p') (hq : q.Reorders q') : p'.pairing q' = p.pairing q := by
  rw [Place.pairing, Place.pairing, hp.toEnd_eq, hq.toEnd_eq, hp.field]

end Place.Reorders

namespace Document

variable {d d' : Document}

/-- A place corresponds to one place at most. -/
theorem Valid.eq_of_reorders (hd : d.Valid) {p q r : Place} (hp : p ∈ d.relationFields)
    (hq : q ∈ d.relationFields) (hrp : r.Reorders p) (hrq : r.Reorders q) : p = q :=
  hd.eq_of_names_eq hp hq (hrp.type.name.trans hrq.type.name.symm)
    (congrArg Field.name (hrp.field.trans hrq.field.symm))

namespace Reorders

/-- Documents that differ in order do so in both directions. -/
theorem symm (h : d.Reorders d') : d'.Reorders d :=
  ⟨(Multiset.rel_flip.mpr h.objectTypes).mono fun _ _ _ _ ht => ht.symm, h.enumTypes.symm⟩

/-- Every object type has its fields in the other order somewhere. -/
theorem exists_type (h : d.Reorders d') {t : ObjectType} (ht : t ∈ d.objectTypes) :
    ∃ t' ∈ d'.objectTypes, t.Reorders t' :=
  Multiset.exists_mem_of_rel_of_mem h.objectTypes ht

/-- Every relation field corresponds to one of the other order. -/
theorem exists_place (h : d.Reorders d') {p : Place} (hp : p ∈ d.relationFields) :
    ∃ p' : Place, p' ∈ d'.relationFields ∧ p.Reorders p' := by
  obtain ⟨ht, hf⟩ := mem_relationFields.mp hp
  obtain ⟨t', ht', htt'⟩ := h.exists_type ht
  exact ⟨(t', p.2), mem_relationFields.mpr ⟨ht', htt'.mem_relationFields.mpr hf⟩, htt', rfl⟩

/-! ### Candidates -/

/-- **Candidates correspond to candidates.** -/
theorem exists_candidate (h : d.Reorders d') (hd : d.Valid) {p p' q : Place}
    (hp : p ∈ d.relationFields) (hpp' : p.Reorders p') (hpq : d.IsCandidate p q) :
    ∃ q' : Place, q.Reorders q' ∧ d'.IsCandidate p' q' := by
  obtain ⟨q', hq', hqq'⟩ := h.exists_place hpq.mem
  refine ⟨q', hqq', hq', ?_, ?_, ?_, ?_⟩
  · rw [hqq'.type.name, hpp'.field, hpq.onTarget]
  · rw [hqq'.field, hpp'.type.name, hpq.refersBack]
  · rintro rfl
    exact hpq.ne (hd.eq_of_reorders hpq.mem hp hqq'.symm hpp'.symm)
  · rw [hpp'.field, hqq'.field]
    exact hpq.hint

/-- Counterparts correspond to counterparts. -/
theorem exists_counterpart (h : d.Reorders d') (hd : d.Valid) (hd' : d'.Valid) {p p' q : Place}
    (hp : p ∈ d.relationFields) (hp' : p' ∈ d'.relationFields) (hpp' : p.Reorders p')
    (hpq : d.IsCounterpart p q) : ∃ q' : Place, q.Reorders q' ∧ d'.IsCounterpart p' q' := by
  obtain ⟨q', hqq', hq'⟩ := h.exists_candidate hd hp hpp' hpq.toIsCandidate
  refine ⟨q', hqq', hq', fun r' hr' => ?_⟩
  obtain ⟨r, hrr', hr⟩ := h.symm.exists_candidate hd' hp' hpp'.symm hr'
  obtain rfl := hpq.only r hr
  exact hd'.eq_of_reorders hr'.mem hq'.mem hrr'.symm hqq'

/-! ### Hints -/

/-- The relation fields with the names of their types are the same in another order. -/
theorem named_relationFields_perm (h : d.Reorders d') (hd : d.Valid) (hd' : d'.Valid) :
    d'.relationFields.map (fun p => (p.1.name, p.2)) ~
      d.relationFields.map fun p => (p.1.name, p.2) := by
  have hnodup : ∀ {d : Document}, d.Valid →
      (d.relationFields.map fun p => (p.1.name, p.2)).Nodup := fun hd =>
    hd.relationFields_nodup.map_on fun p hp q hq heq =>
      hd.eq_of_names_eq hp hq (Prod.mk.inj heq).1 (congrArg Field.name (Prod.mk.inj heq).2)
  have hsubset : ∀ {d d' : Document}, d.Reorders d' →
      d.relationFields.map (fun p => (p.1.name, p.2)) ⊆
        d'.relationFields.map fun p => (p.1.name, p.2) := fun h x hx => by
    obtain ⟨p, hp, rfl⟩ := List.mem_map.mp hx
    obtain ⟨p', hp', hpp'⟩ := h.exists_place hp
    exact List.mem_map.mpr ⟨p', hp', by rw [hpp'.type.name, hpp'.field]⟩
  exact (List.perm_ext_iff_of_nodup (hnodup hd') (hnodup hd)).mpr fun x =>
    ⟨fun hx => hsubset h.symm hx, fun hx => hsubset h hx⟩

/-- A hint is on as many fields in the one order as in the other. -/
theorem countP_hint_eq (h : d.Reorders d') (hd : d.Valid) (hd' : d'.Valid) (hint : String) :
    d'.relationFields.countP (fun q => q.2.hint = some hint) =
      d.relationFields.countP (fun q => q.2.hint = some hint) := by
  have hcount := (h.named_relationFields_perm hd hd').countP_eq fun x => x.2.hint = some hint
  rwa [List.countP_map, List.countP_map] at hcount

end Reorders

/-! ### Reference columns -/

/-- No object type has two single values that refer to the type itself. -/
def AtMostOneLoop (d : Document) : Prop :=
  ∀ t ∈ d.objectTypes, ∀ f ∈ t.relationFields, ∀ g ∈ t.relationFields,
    f.typeName = t.name → f.list = false → g.typeName = t.name → g.list = false → f = g

instance (d : Document) : Decidable d.AtMostOneLoop :=
  inferInstanceAs (Decidable (∀ t ∈ d.objectTypes, ∀ f ∈ t.relationFields, ∀ g ∈ t.relationFields,
    f.typeName = t.name → f.list = false → g.typeName = t.name → g.list = false → f = g))

/-- The condition on loops does not depend on the order. -/
theorem Reorders.atMostOneLoop (h : d.Reorders d') (hloop : d.AtMostOneLoop) :
    d'.AtMostOneLoop := by
  intro t' ht' f hf g hg
  obtain ⟨t, ht, htt'⟩ := h.symm.exists_type ht'
  rw [← htt'.name]
  exact hloop t ht f (htt'.mem_relationFields.mpr hf) g (htt'.mem_relationFields.mpr hg)

/-- Two single values of one type do not face each other when there is at most one loop. -/
theorem AtMostOneLoop.list_of_type_eq (hloop : d.AtMostOneLoop) {p q : Place}
    (hp : p ∈ d.relationFields) (hpq : d.IsCandidate p q) (htype : q.1 = p.1)
    (hsingle : p.2.list = false) : q.2.list = true := by
  by_contra hlist
  obtain ⟨ht, hf⟩ := mem_relationFields.mp hp
  have hg : q.2 ∈ p.1.relationFields := htype ▸ (mem_relationFields.mp hpq.mem).2
  have hfield := hloop p.1 ht q.2 hg p.2 hf hpq.refersBack (by simpa using hlist)
    (htype ▸ hpq.onTarget.symm) hsingle
  exact hpq.ne (Prod.ext htype hfield)

/-- With at most one loop, the order does not matter for who owns a reference column. -/
theorem AtMostOneLoop.ownsReference_iff (hloop : d.AtMostOneLoop) {p : Place}
    (hp : p ∈ d.relationFields) :
    d.OwnsReference p ↔ p.2.list = false ∧ ∃ q, d.IsCandidate p q := by
  refine and_congr_right fun hsingle => exists_congr fun q => ?_
  refine and_iff_left_of_imp fun hpq => ?_
  by_cases htype : q.1 = p.1
  · exact Or.inl (hloop.list_of_type_eq hp hpq htype hsingle)
  · exact Or.inr fun hsame => htype hsame.1

/-- A field has the same column in the other order. -/
theorem Reorders.hasColumn (h : d.Reorders d') (hd : d.Valid) (hloop : d.AtMostOneLoop)
    {t t' : ObjectType} (ht : t ∈ d.objectTypes) (ht' : t' ∈ d'.objectTypes)
    (htt' : t.Reorders t') {f : Field} (hf : f ∈ t.fields) {column : String}
    (hcolumn : d.HasColumn t f column) : d'.HasColumn t' f column := by
  cases hcolumn with
  | value hvalue => exact .value hvalue
  | reference hkind howns =>
      have hft := mem_relationFields_type.mpr ⟨hf, hkind⟩
      have hp : (t, f) ∈ d.relationFields := mem_relationFields.mpr ⟨ht, hft⟩
      have hp' : (t', f) ∈ d'.relationFields :=
        mem_relationFields.mpr ⟨ht', htt'.mem_relationFields.mpr hft⟩
      have hpp' : Place.Reorders (t, f) (t', f) := ⟨htt', rfl⟩
      obtain ⟨hsingle, q, hq⟩ := (hloop.ownsReference_iff hp).mp howns
      obtain ⟨q', -, hq'⟩ := h.exists_candidate hd hp hpp' hq
      exact .reference hkind (((h.atMostOneLoop hloop).ownsReference_iff hp').mpr
        ⟨hsingle, q', hq'⟩)

/-! ### The conditions for resolution -/

/-- **The conditions for resolution** carry over. -/
theorem Reorders.resolvable (h : d.Reorders d') (hd : d.Valid) (hd' : d'.Valid)
    (hloop : d.AtMostOneLoop) (hres : d.Resolvable) : d'.Resolvable where
  hints p' hp' hint hhint := by
    obtain ⟨p, hp, hpp'⟩ := h.symm.exists_place hp'
    rw [h.countP_hint_eq hd hd']
    exact hres.hints p hp hint (hpp'.field ▸ hhint)
  candidate p' hp' := by
    obtain ⟨p, hp, hpp'⟩ := h.symm.exists_place hp'
    obtain ⟨q, hpq⟩ := isCounterpart_of_existsUnique (hres.candidate p hp)
    obtain ⟨q', -, hpq'⟩ := h.exists_counterpart hd hd' hp hp' hpp'.symm hpq
    exact ⟨q', hpq'.toIsCandidate, hpq'.only⟩
  mutually p' hp' q' r' hpq' hqr' := by
    obtain ⟨p, hp, hpp'⟩ := h.symm.exists_place hp'
    obtain ⟨q, hqq', hpq⟩ := h.symm.exists_candidate hd' hp' hpp' hpq'
    obtain ⟨r, hrr', hqr⟩ := h.symm.exists_candidate hd' hpq'.mem hqq' hqr'
    obtain rfl := hres.mutually p hp q r hpq hqr
    exact hd'.eq_of_reorders hqr'.mem hp' hrr'.symm hpp'.symm
  names p₁' p₂' hp₁' hp₂' q₁' q₂' hpq₁' hpq₂' hname := by
    obtain ⟨p₁, hp₁, hpp₁⟩ := h.symm.exists_place hp₁'
    obtain ⟨p₂, hp₂, hpp₂⟩ := h.symm.exists_place hp₂'
    obtain ⟨q₁, hqq₁, hpq₁⟩ := h.symm.exists_candidate hd' hp₁' hpp₁ hpq₁'
    obtain ⟨q₂, hqq₂, hpq₂⟩ := h.symm.exists_candidate hd' hp₂' hpp₂ hpq₂'
    rw [← hpp₁.pairing_eq hqq₁, ← hpp₂.pairing_eq hqq₂] at hname
    rcases hres.names p₁ p₂ hp₁ hp₂ q₁ q₂ hpq₁ hpq₂ hname with ⟨rfl, rfl⟩ | ⟨rfl, rfl⟩
    · exact Or.inl ⟨hd'.eq_of_reorders hp₂' hp₁' hpp₂.symm hpp₁.symm,
        hd'.eq_of_reorders hpq₂'.mem hpq₁'.mem hqq₂.symm hqq₁.symm⟩
    · exact Or.inr ⟨hd'.eq_of_reorders hp₂' hpq₁'.mem hpp₂.symm hqq₁.symm,
        hd'.eq_of_reorders hpq₂'.mem hp₁' hqq₂.symm hpp₁.symm⟩
  keys p' hp' q' hpq' := by
    obtain ⟨p, hp, hpp'⟩ := h.symm.exists_place hp'
    obtain ⟨q, hqq', hpq⟩ := h.symm.exists_candidate hd' hp' hpp' hpq'
    obtain ⟨hpkey, hqkey⟩ := hres.keys p hp q hpq
    exact ⟨hpp'.type.symm.hasKey hpkey, hqq'.type.symm.hasKey hqkey⟩
  columns t' ht' f hf g hg column hfc hgc := by
    obtain ⟨t, ht, htt'⟩ := h.symm.exists_type ht'
    have hback : ∀ {f}, f ∈ t'.fields → d'.HasColumn t' f column → d.HasColumn t f column :=
      fun hf => h.symm.hasColumn hd' (h.atMostOneLoop hloop) ht' ht htt' hf
    exact hres.columns t ht f (htt'.fields.mem_iff.mpr hf) g (htt'.fields.mem_iff.mpr hg) column
      (hback hf hfc) (hback hg hgc)

end Document

/-! ### The same relations up to their sides -/

/-- The relations have the same name, given or computed, and the same two fields, and say the same
of each of the two. -/
structure Relation.Matches (r s : Relation) : Prop where
  name : s.name = r.name
  hasExplicitName : s.hasExplicitName = r.hasExplicitName
  samePair : s.samePair r = true
  fields : ∀ side side', s.onSide side' = r.onSide side →
    s.kindFor side' = r.kindFor side ∧ s.ownsReference side' = r.ownsReference side ∧
      s.referenceColumn side' = r.referenceColumn side ∧
      s.junctionColumn side' = r.junctionColumn side

/-- A relation with two different ends matches itself. -/
theorem Relation.matches_self {r : Relation}
    (hne : ∀ side side', r.onSide side = r.onSide side' → side = side') : r.Matches r where
  name := rfl
  hasExplicitName := rfl
  samePair := samePair_iff.mpr (.inl ⟨rfl, rfl⟩)
  fields side side' hside := by
    obtain rfl := hne side' side hside
    exact ⟨rfl, rfl, rfl, rfl⟩

/-- A relation with two different ends matches the one with its sides exchanged. -/
theorem Relation.matches_swap {r : Relation}
    (hne : ∀ side side', r.onSide side = r.onSide side' → side = side')
    (hself : r.isSelfReferencing = true → r.cardinality ≠ .oneToOne) : r.Matches r.swap where
  name := r.name_swap
  hasExplicitName := rfl
  samePair := samePair_iff.mpr (.inr ⟨rfl, rfl⟩)
  fields side side' hside := by
    rw [onSide_swap] at hside
    obtain rfl := hne side'.opposite side hside
    exact ⟨r.kindFor_swap side', ownsReference_swap hself side', r.referenceColumn_swap side',
      r.junctionColumn_swap side'⟩

namespace RelationSet

/-- The sets have matching relations, in any order. -/
def Matches (set set' : RelationSet) : Prop :=
  Multiset.Rel Relation.Matches (set.relations : Multiset Relation) set'.relations

/-- A relation from the side that a set has it. -/
def oriented (set : RelationSet) (r : Relation) : Relation :=
  if r ∈ set.relations then r else r.swap

/-- The side does not matter for the ends. -/
theorem mem_ends_oriented {set : RelationSet} {r : Relation} {e : RelationEnd} :
    e ∈ (set.oriented r).ends ↔ e ∈ r.ends := by
  unfold oriented
  split
  · rfl
  · exact Relation.mem_ends_swap

/-- A relation that a set has from one of its sides is in it from the side that is asked for. -/
theorem oriented_mem {set : RelationSet} {r : Relation}
    (h : r ∈ set.relations ∨ r.swap ∈ set.relations) : set.oriented r ∈ set.relations := by
  unfold oriented
  split
  · assumption
  · exact h.resolve_left ‹_›

variable {d d' : Document} {set set' : RelationSet}

/-- Single values of one type do not form a relation when there is at most one loop. -/
theorem Collected.cardinality_ne_oneToOne {done : List Place} (hd : d.Valid)
    (hloop : d.AtMostOneLoop) (h : Collected d done set) {r : Relation} (hr : r ∈ set.relations)
    (hself : r.isSelfReferencing = true) : r.cardinality ≠ .oneToOne := by
  obtain ⟨p, -, q, hpq, horder, rfl⟩ := h.pairs r hr
  have hp : p ∈ d.relationFields := horder.subset (by simp)
  have htype : q.1 = p.1 := List.eq_of_map_nodup hd.objectNames_nodup
    (Document.mem_relationFields.mp hpq.mem).1 (Document.mem_relationFields.mp hp).1
    (beq_iff_eq.mp hself).symm
  intro hcard
  obtain ⟨hsingle, hsingle'⟩ := cardinality_eq_oneToOne_iff.mp hcard
  have hlist : q.2.list = true := hloop.list_of_type_eq hp hpq.toIsCandidate htype hsingle
  exact Bool.false_ne_true (hsingle'.symm.trans hlist)

/-- A relation of one order is one of the other, from the same side or the other one. -/
theorem Collected.mem_or_swap_mem (hre : d.Reorders d') (hd : d.Valid) (hd' : d'.Valid)
    (h : Collected d d.relationFields set) (h' : Collected d' d'.relationFields set')
    {r : Relation} (hr : r ∈ set.relations) : r ∈ set'.relations ∨ r.swap ∈ set'.relations := by
  obtain ⟨p, hp, q, hpq, -, rfl⟩ := h.pairs r hr
  obtain ⟨p', hp', hpp'⟩ := hre.exists_place hp
  obtain ⟨q', hqq', hpq'⟩ := hre.exists_counterpart hd hd' hp hp' hpp' hpq
  rw [← hpp'.pairing_eq hqq']
  exact h'.pairing_mem_or_swap_mem hd' hp' hpq'

/-- **The relations of one order are those of the other**, from the sides that the other has them
from. -/
theorem map_oriented_perm (hre : d.Reorders d') (hd : d.Valid) (hd' : d'.Valid)
    (h : Collected d d.relationFields set) (h' : Collected d' d'.relationFields set') :
    set.relations.map set'.oriented ~ set'.relations := by
  have hmem : ∀ r ∈ set.relations, set'.oriented r ∈ set'.relations := fun r hr =>
    oriented_mem (Collected.mem_or_swap_mem hre hd hd' h h' hr)
  -- Relations that share an end are the same one, whatever side they are seen from.
  have hinj : ∀ r ∈ set.relations, ∀ s ∈ set.relations,
      set'.oriented r = set'.oriented s → r = s := fun r hr s hs heq => by
    have hend : r.a ∈ (set'.oriented r).ends := mem_ends_oriented.mpr (r.onSide_mem_ends .a)
    exact h.eq_of_mem_ends hr hs (r.onSide_mem_ends .a) (mem_ends_oriented.mp (heq ▸ hend))
  refine (List.perm_ext_iff_of_nodup (h.nodup.map_on hinj) h'.nodup).mpr fun s => ?_
  constructor
  · intro hs
    obtain ⟨r, hr, rfl⟩ := List.mem_map.mp hs
    exact hmem r hr
  · intro hs
    obtain ⟨r, hr, hend⟩ : ∃ r ∈ set.relations, s.a ∈ r.ends := by
      rcases Collected.mem_or_swap_mem hre.symm hd' hd h' h hs with hr | hr
      · exact ⟨s, hr, s.onSide_mem_ends .a⟩
      · exact ⟨s.swap, hr, Relation.mem_ends_swap.mpr (s.onSide_mem_ends .a)⟩
    exact List.mem_map.mpr ⟨r, hr, h'.eq_of_mem_ends (hmem r hr) hs (mem_ends_oriented.mpr hend)
      (s.onSide_mem_ends .a)⟩

/-- Sets that are collected in different orders match. -/
theorem Collected.matches (hre : d.Reorders d') (hd : d.Valid) (hd' : d'.Valid)
    (hloop : d.AtMostOneLoop) (h : Collected d d.relationFields set)
    (h' : Collected d' d'.relationFields set') : set.Matches set' := by
  rw [RelationSet.Matches, ← Multiset.coe_eq_coe.mpr (map_oriented_perm hre hd hd' h h'),
    ← Multiset.map_coe, Multiset.rel_map_right]
  refine Multiset.rel_refl_of_refl_on fun r hr => ?_
  have hne : ∀ side side', r.onSide side = r.onSide side' → side = side' := fun _ _ =>
    h.eq_of_onSide_eq hr
  unfold oriented
  split
  · exact Relation.matches_self hne
  · exact Relation.matches_swap hne (h.cardinality_ne_oneToOne hd hloop hr)

/-- **Relations do not depend on the order of declarations.** A document without two loops on one
type can be resolved exactly when it can be in another order, and the relations are the same up to
their order and their sides. -/
theorem resolve_reorders {objectTypes objectTypes' : List ObjectType}
    {enumTypes enumTypes' : List EnumType}
    (hd : Document.validated objectTypes enumTypes = .ok d)
    (hd' : Document.validated objectTypes' enumTypes' = .ok d') (hre : d.Reorders d')
    (hloop : d.AtMostOneLoop) :
    ((∃ set, resolve d = .ok set) ↔ ∃ set', resolve d' = .ok set') ∧
      ∀ set set', resolve d = .ok set → resolve d' = .ok set' → set.Matches set' := by
  have hvalid := Document.valid_of_validated hd
  have hvalid' := Document.valid_of_validated hd'
  refine ⟨⟨fun ⟨_, h⟩ => ?_, fun ⟨_, h'⟩ => ?_⟩, fun set set' h h' => ?_⟩
  · have hres := resolvable_of_resolve hvalid h
    exact exists_resolve_of_resolvable hvalid' (hre.resolvable hvalid hvalid' hloop hres)
  · have hres := resolvable_of_resolve hvalid' h'
    exact exists_resolve_of_resolvable hvalid
      (hre.symm.resolvable hvalid' hvalid (hre.atMostOneLoop hloop) hres)
  · exact Collected.matches hre hvalid hvalid' hloop (collected_of_resolve hvalid h)
      (collected_of_resolve hvalid' h')

end RelationSet

/-! ### A firm -/

namespace Document

/-- The declarations of a document in reverse. -/
def reversed (d : Document) : Document where
  objectTypes := (d.objectTypes.map fun t => { t with fields := t.fields.reverse }).reverse
  enumTypes := d.enumTypes

/-- Reversal only changes the order. -/
theorem reorders_reversed (d : Document) : d.Reorders d.reversed := by
  refine ⟨?_, rfl⟩
  rw [reversed, Multiset.coe_reverse, ← Multiset.map_coe, Multiset.rel_map_right]
  exact Multiset.rel_refl_of_refl_on fun t _ => ⟨rfl, rfl, t.fields.reverse_perm⟩

/-- A firm, which relates employees to each other, to their badges and to their projects. -/
def firm : Document where
  objectTypes :=
    [ .of "Employee"
        [ { name := "id", typeName := "ID", kind := .scalar .id, required := true },
          { name := "boss", typeName := "Employee", kind := .relation },
          { name := "reports", typeName := "Employee", kind := .relation, list := true },
          { name := "badge", typeName := "Badge", kind := .relation },
          { name := "projects", typeName := "Project", kind := .relation, list := true } ] {},
      .of "Badge"
        [ { name := "id", typeName := "ID", kind := .scalar .id, required := true },
          { name := "holder", typeName := "Employee", kind := .relation } ] {},
      .of "Project"
        [ { name := "id", typeName := "ID", kind := .scalar .id, required := true },
          { name := "staff", typeName := "Employee", kind := .relation, list := true } ] {} ]
  enumTypes := []

end Document

/-- The firm has the same relations in reverse, where all of them are met from their other sides. -/
theorem RelationSet.firm_matches_reversed : ∃ set set',
    resolve .firm = .ok set ∧ resolve Document.firm.reversed = .ok set' ∧ set.Matches set' := by
  have hd : Document.validated Document.firm.objectTypes [] = .ok .firm := by decide +kernel
  have hd' : Document.validated Document.firm.reversed.objectTypes [] =
      .ok Document.firm.reversed := by decide +kernel
  have hloop : Document.firm.AtMostOneLoop := by decide +kernel
  obtain ⟨set, h⟩ : ∃ set, resolve .firm = .ok set := ⟨⟨[_, _, _]⟩, rfl⟩
  obtain ⟨hiff, hmatches⟩ := resolve_reorders hd hd' Document.firm.reorders_reversed hloop
  obtain ⟨set', h'⟩ := hiff.mp ⟨set, h⟩
  exact ⟨set, set', h, h', hmatches set set' h h'⟩

end DataModel
