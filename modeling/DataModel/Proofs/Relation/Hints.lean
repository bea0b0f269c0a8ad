import DataModel.Proofs.Relation.Resolvability
import Mathlib.Data.List.Perm.Basic

/-!
# Documents that differ in their hints

A hint on a relation field says which other field it pairs with, and names the relation. Two
documents that differ in nothing else may so be resolved into different relations. If they are not,
so that the same fields are paired, then the relations stand in the same order and on the same
sides, and only their names differ.

The relations of a resolved document are told apart by their ends on side A, which stand in the
order of the relation fields (`RelationSet.Collected.ordered`), and of two paired fields the earlier
one is on side A. Neither depends on hints.

## Main results

* `Document.relationEnds_withoutHints`: the ends that a document offers do not depend on hints.
* `RelationSet.withoutHints_eq_of_samePairs`: **documents that differ in their hints and pair the
  same fields have the same relations up to hints, in the same order and on the same sides.**
* `RelationSet.forField?_withoutHints`: the look-up of a field does not depend on hints.
-/

open scoped List

namespace DataModel

/-! ### Without hints -/

/-- The field without its hint. -/
def Field.withoutHint (f : Field) : Field :=
  { f with options := { f.options with relationName := none } }

/-- The object type without the hints of its fields. -/
def ObjectType.withoutHints (t : ObjectType) : ObjectType :=
  { t with fields := t.fields.map Field.withoutHint }

/-- The document without the hints of its fields. -/
def Document.withoutHints (d : Document) : Document :=
  { d with objectTypes := d.objectTypes.map ObjectType.withoutHints }

/-- The relation without its hint. -/
def Relation.withoutHint (r : Relation) : Relation := { r with hint := none }

/-- Relations that differ in their hints have the same ends. -/
theorem Relation.exists_hint_of_withoutHint_eq {r r' : Relation}
    (h : r'.withoutHint = r.withoutHint) : ∃ hint, r' = { r with hint := hint } := by
  obtain ⟨ha, hb, -⟩ := Relation.mk.inj h
  exact ⟨r'.hint, congrArg₂ (Relation.mk · · r'.hint) ha hb⟩

/-- The set of the relations without their hints. -/
def RelationSet.withoutHints (set : RelationSet) : RelationSet :=
  ⟨set.relations.map Relation.withoutHint⟩

namespace ObjectType

variable (t : ObjectType)

/-- The scalar fields do not depend on hints. -/
theorem scalarFields_withoutHints :
    t.withoutHints.scalarFields = t.scalarFields.map Field.withoutHint :=
  List.filter_map

/-- The enum fields do not depend on hints. -/
theorem enumFields_withoutHints :
    t.withoutHints.enumFields = t.enumFields.map Field.withoutHint :=
  List.filter_map

/-- The relation fields do not depend on hints. -/
theorem relationFields_withoutHints :
    t.withoutHints.relationFields = t.relationFields.map Field.withoutHint :=
  List.filter_map

/-- The primary key does not depend on hints. -/
theorem primaryKey?_withoutHints :
    t.withoutHints.primaryKey? = t.primaryKey?.map Field.withoutHint :=
  List.find?_map

end ObjectType

namespace Document

variable (d : Document)

/-- An object type is found by its name whatever the hints. -/
theorem objectType?_withoutHints (name : String) :
    d.withoutHints.objectType? name = (d.objectType? name).map ObjectType.withoutHints :=
  List.find?_map

/-- The primary key of a type is found whatever the hints. -/
theorem primaryKeyOf?_withoutHints (name : String) :
    d.withoutHints.primaryKeyOf? name = (d.primaryKeyOf? name).map Field.withoutHint := by
  rw [primaryKeyOf?, primaryKeyOf?, objectType?_withoutHints]
  cases d.objectType? name with
  | none => rfl
  | some t => exact t.primaryKey?_withoutHints

/-- The ends that a document offers to relations, in the order of the relation fields. -/
def relationEnds : List RelationEnd := d.relationFields.map Place.toEnd

/-- The ends by the types that they stand on. -/
theorem relationEnds_eq :
    d.relationEnds = d.objectTypes.flatMap fun t => t.relationFields.map (RelationEnd.of t) := by
  rw [relationEnds, relationFields, List.map_flatMap]
  simp only [List.map_map]
  rfl

/-- **The ends that a document offers** do not depend on hints. -/
theorem relationEnds_withoutHints : d.withoutHints.relationEnds = d.relationEnds := by
  rw [relationEnds_eq, relationEnds_eq, withoutHints, List.flatMap_map]
  refine List.flatMap_congr fun t _ => ?_
  rw [t.relationFields_withoutHints, List.map_map]
  rfl

variable {d}

/-- The ends are told apart by the names of the field and its type. -/
theorem Valid.eq_of_isField_end (hd : d.Valid) {e e' : RelationEnd} (he : e ∈ d.relationEnds)
    (he' : e' ∈ d.relationEnds) (h : e.isField e'.objectType e'.field = true) : e = e' := by
  obtain ⟨p, hp, rfl⟩ := List.mem_map.mp he
  obtain ⟨q, hq, rfl⟩ := List.mem_map.mp he'
  exact (hd.toEnd_inj hp hq).mpr (hd.eq_of_isField hp hq h)

/-- No end is offered twice. -/
theorem Valid.relationEnds_nodup (hd : d.Valid) : d.relationEnds.Nodup :=
  hd.relationFields_nodup.map_on fun _ hp _ hq => (hd.toEnd_inj hp hq).mp

end Document

namespace RelationSet

variable {d d' : Document} {set set' : RelationSet}

/-- **The look-up of a field** does not depend on hints. -/
theorem forField?_withoutHints (set : RelationSet) (t f : String) :
    set.withoutHints.forField? t f =
      (set.forField? t f).map (Prod.map Relation.withoutHint id) := by
  rw [forField?, forField?, withoutHints, List.findSome?_map, List.map_findSome?]
  congr 1
  funext r
  simp only [Function.comp_apply, Option.map_map]
  rfl

/-- A field is found on the same side of corresponding relations in sets that differ in their hints.
-/
theorem exists_forField?_of_withoutHints_eq (h : set'.withoutHints = set.withoutHints)
    {t f : String} {r : Relation} {side : Side} (hfind : set.forField? t f = some (r, side)) :
    ∃ r', set'.forField? t f = some (r', side) ∧ r'.withoutHint = r.withoutHint := by
  have hmaps := (set'.forField?_withoutHints t f).symm.trans
    ((congrArg (·.forField? t f) h).trans (set.forField?_withoutHints t f))
  rw [hfind, Option.map_some, Option.map_eq_some_iff] at hmaps
  obtain ⟨⟨r', side'⟩, hfind', heq⟩ := hmaps
  obtain ⟨hr, rfl⟩ := Prod.mk.inj heq
  exact ⟨r', hfind', hr⟩

/-- Sets that differ in their hints have corresponding relations. -/
theorem forall₂_of_withoutHints_eq (h : set'.withoutHints = set.withoutHints) :
    List.Forall₂ (fun r r' => r'.withoutHint = r.withoutHint) set.relations set'.relations := by
  have hmaps : List.Forall₂ (fun s s' : Relation => s' = s)
      (set.relations.map Relation.withoutHint) (set'.relations.map Relation.withoutHint) := by
    rw [show set'.relations.map Relation.withoutHint = set.relations.map Relation.withoutHint from
      congrArg relations h]
    exact List.forall₂_same.mpr fun _ _ => rfl
  exact List.forall₂_map_left_iff.mp (List.forall₂_map_right_iff.mp hmaps)

/-! ### The same pairs -/

/-- A relation of the set pairs the first field with the second. -/
def Pairs (set : RelationSet) (t f u g : String) : Prop :=
  ∃ r ∈ set.relations, ∃ side, (r.onSide side).isField t f = true ∧
    (r.onSide side.opposite).isField u g = true

/-- The sets pair the same fields. -/
def SamePairs (set set' : RelationSet) : Prop :=
  ∀ t f u g, set.Pairs t f u g ↔ set'.Pairs t f u g

/-- Which fields are paired does not depend on the hints of the relations. -/
theorem samePairs_withoutHints (set : RelationSet) : SamePairs set set.withoutHints := by
  intro t f u g
  constructor
  · rintro ⟨r, hr, hpair⟩
    exact ⟨r.withoutHint, List.mem_map_of_mem hr, hpair⟩
  · rintro ⟨_, hmem, hpair⟩
    obtain ⟨r, hr, rfl⟩ := List.mem_map.mp hmem
    exact ⟨r, hr, hpair⟩

/-- The end on a side is one that the document offers. -/
theorem Collected.onSide_mem_relationEnds (h : Collected d d.relationFields set) {r : Relation}
    (hr : r ∈ set.relations) (side : Side) : r.onSide side ∈ d.relationEnds := by
  obtain ⟨p, hp, hside⟩ := h.exists_place hr side
  exact List.mem_map.mpr ⟨p, hp, hside.symm⟩

/-- The end on side A comes before the one on side B. -/
theorem Collected.ends_sublist (h : Collected d d.relationFields set) {r : Relation}
    (hr : r ∈ set.relations) : [r.a, r.b] <+ d.relationEnds := by
  obtain ⟨p, -, q, -, horder, rfl⟩ := h.pairs r hr
  exact horder.map Place.toEnd

/-- A relation of a set that pairs the same fields has the same ends on the same sides. -/
theorem exists_withoutHint_eq (hd : d.Valid) (h : Collected d d.relationFields set)
    (h' : Collected d' d'.relationFields set') (hends : d'.relationEnds = d.relationEnds)
    (hpairs : SamePairs set set') {r : Relation} (hr : r ∈ set.relations) :
    ∃ r' ∈ set'.relations, r'.withoutHint = r.withoutHint := by
  obtain ⟨r', hr', side, ha, hb⟩ := (hpairs r.a.objectType r.a.field r.b.objectType r.b.field).mp
    ⟨r, hr, .a, by simp [Relation.onSide, RelationEnd.isField],
      by simp [Relation.onSide, Side.opposite, RelationEnd.isField]⟩
  have hmem : ∀ side, r'.onSide side ∈ d.relationEnds := fun side =>
    hends ▸ h'.onSide_mem_relationEnds hr' side
  have ha : r'.onSide side = r.a :=
    hd.eq_of_isField_end (hmem side) (h.onSide_mem_relationEnds hr .a) ha
  have hb : r'.onSide side.opposite = r.b :=
    hd.eq_of_isField_end (hmem side.opposite) (h.onSide_mem_relationEnds hr .b) hb
  refine ⟨r', hr', ?_⟩
  cases side with
  | a => exact congrArg₂ (Relation.mk · · none) ha hb
  | b =>
      -- with its sides exchanged, `r'` would have the later of the two ends on side A
      have horder : [r.b, r.a] <+ d.relationEnds := ha ▸ hb ▸ hends ▸ h'.ends_sublist hr'
      exact absurd horder (hd.relationEnds_nodup.pair_sublist_asymm (h.ends_sublist hr))

/-- The relations of a resolved document stand in the order of their ends on side A, each once. -/
theorem Collected.withoutHints_ordered (hd : d.Valid) (h : Collected d d.relationFields set) :
    set.withoutHints.relations.Nodup ∧
      set.withoutHints.relations.Pairwise fun r s => [r.a, s.a] <+ d.relationEnds := by
  have hsublist : set.withoutHints.relations.map (·.a) <+ d.relationEnds := by
    rw [withoutHints, List.map_map]
    exact h.ordered
  have hordered : (set.withoutHints.relations.map (·.a)).Pairwise fun e e' =>
      [e, e'] <+ d.relationEnds :=
    List.pairwise_iff_forall_sublist.mpr fun hpair => hpair.trans hsublist
  exact ⟨.of_map _ (hd.relationEnds_nodup.sublist hsublist), List.pairwise_map.mp hordered⟩

/-- **Documents that differ in their hints** and pair the same fields have the same relations up to
hints, in the same order and on the same sides. -/
theorem withoutHints_eq_of_samePairs (hd : d.Valid) (hd' : d'.Valid)
    (h : Collected d d.relationFields set) (h' : Collected d' d'.relationFields set')
    (hsame : d'.withoutHints = d.withoutHints) (hpairs : SamePairs set set') :
    set'.withoutHints = set.withoutHints := by
  have hends : d'.relationEnds = d.relationEnds := by
    rw [← d'.relationEnds_withoutHints, hsame, d.relationEnds_withoutHints]
  obtain ⟨hnodup, hordered⟩ := h.withoutHints_ordered hd
  obtain ⟨hnodup', hordered'⟩ := h'.withoutHints_ordered hd'
  rw [hends] at hordered'
  have hperm : set'.withoutHints.relations ~ set.withoutHints.relations := by
    refine (List.perm_ext_iff_of_nodup hnodup' hnodup).mpr fun s => ?_
    simp only [withoutHints, List.mem_map]
    constructor
    · rintro ⟨r', hr', rfl⟩
      exact exists_withoutHint_eq hd' h' h hends.symm (fun t f u g => (hpairs t f u g).symm) hr'
    · rintro ⟨r, hr, rfl⟩
      exact exists_withoutHint_eq hd h h' hends hpairs hr
  -- of the orders that the same relations may stand in, the one of their ends is the only one left
  have hlist : set'.withoutHints.relations = set.withoutHints.relations :=
    hperm.eq_of_pairwise
      (fun _ _ _ _ hrs hsr => absurd hsr (hd.relationEnds_nodup.pair_sublist_asymm hrs))
      hordered' hordered
  exact congrArg RelationSet.mk hlist

end RelationSet

end DataModel
