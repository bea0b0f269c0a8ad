import DataModel.Proofs.Relation.Collection
import Mathlib.Data.List.Pairwise

/-!
# The matching of relation fields

The relations of a resolved document pair its relation fields off completely. Nothing in the walk
checks this at the end: it follows from what one step can do. A field whose counterpart has another
counterpart would put one field on two relations, which the freshness of ends rules out, so
counterparts are mutual; and two mutual counterparts carry the same hint.

## Main results

* `RelationSet.Collected.counterpart_symm`: in a resolved document counterparts are mutual.
* `RelationSet.resolve_isMatching`: **the relations of a resolved document are a perfect matching**
  of its relation fields, in canonical order.
-/

open scoped List

namespace DataModel

namespace RelationSet

variable {d : Document} {set : RelationSet}

namespace Collected

variable {done : List Place}

/-- An end is on one relation only. -/
theorem eq_of_mem_ends (h : Collected d done set) {r s : Relation} (hr : r ∈ set.relations)
    (hs : s ∈ set.relations) {e : RelationEnd} (her : e ∈ r.ends) (hes : e ∈ s.ends) : r = s := by
  by_contra hne
  have hpairwise : set.relations.Pairwise fun r s => r.ends.Disjoint s.ends :=
    (List.nodup_flatMap.mp h.ends_nodup).2
  have : Std.Symm fun r s : Relation => r.ends.Disjoint s.ends := ⟨fun _ _ hrs _ hs hr => hrs hr hs⟩
  exact hpairwise.forall hr hs hne her hes

/-- The two ends of a relation differ, so an end is on one side only. -/
theorem eq_of_onSide_eq (h : Collected d done set) {r : Relation} (hr : r ∈ set.relations)
    {side side' : Side} (hside : r.onSide side = r.onSide side') : side = side' := by
  have hne : r.a ≠ r.b := by
    simpa [Relation.ends] using (List.nodup_flatMap.mp h.ends_nodup).1 r hr
  cases side <;> cases side' <;> simp_all [Relation.onSide, eq_comm]

/-- No relation is listed twice. -/
theorem nodup (h : Collected d done set) : set.relations.Nodup :=
  List.Nodup.of_map _ h.names_nodup

/-- **Counterparts are mutual** in a resolved document. The relation that the first field is on and
the one that its counterpart is on share an end, so they are the same, and the second field's own
counterpart can only be the first. -/
theorem counterpart_symm (hd : d.Valid) (h : Collected d d.relationFields set) {p q : Place}
    (hp : p ∈ d.relationFields) (hpq : d.IsCounterpart p q) : d.IsCounterpart q p := by
  obtain ⟨q', hq', r, hr, hsame, -⟩ := h.covers p hp
  obtain rfl := hq'.unique hpq
  obtain ⟨p', hp', s, hs, hsame', -⟩ := h.covers q' hpq.mem
  have hqr : q'.toEnd ∈ r.ends :=
    (Relation.mem_ends_of_samePair hsame).mpr (Place.mem_ends_pairing_iff.mpr (.inr rfl))
  have hqs : q'.toEnd ∈ s.ends :=
    (Relation.mem_ends_of_samePair hsame').mpr (Place.mem_ends_pairing_iff.mpr (.inl rfl))
  obtain rfl := h.eq_of_mem_ends hr hs hqr hqs
  have hpr : p.toEnd ∈ r.ends :=
    (Relation.mem_ends_of_samePair hsame).mpr (Place.mem_ends_pairing_iff.mpr (.inl rfl))
  have hends := (Relation.mem_ends_of_samePair hsame').mp hpr
  rcases Place.mem_ends_pairing_iff.mp hends with heq | heq
  · exact absurd ((hd.toEnd_inj hp hpq.mem).mp heq).symm hpq.ne
  · rwa [(hd.toEnd_inj hp hp'.mem).mp heq]

/-- The set has the relation of a field and its counterpart, seen from one of them. -/
theorem pairing_mem_or_swap_mem (hd : d.Valid) (h : Collected d d.relationFields set) {p q : Place}
    (hp : p ∈ d.relationFields) (hpq : d.IsCounterpart p q) :
    p.pairing q ∈ set.relations ∨ (p.pairing q).swap ∈ set.relations := by
  obtain ⟨q', hq', r, hr, hsame, -⟩ := h.covers p hp
  obtain rfl := hq'.unique hpq
  obtain ⟨u, hu, v, huv, -, rfl⟩ := h.pairs r hr
  rcases Relation.samePair_iff.mp hsame with ⟨ha, hb⟩ | ⟨ha, hb⟩
  · obtain rfl := (hd.toEnd_inj hu hp).mp ha
    obtain rfl := (hd.toEnd_inj huv.mem hq'.mem).mp hb
    exact Or.inl hr
  · obtain rfl := (hd.toEnd_inj hu hq'.mem).mp ha
    obtain rfl := (hd.toEnd_inj huv.mem hp).mp hb
    exact Or.inr (hq'.pairing_swap huv ▸ hr)

end Collected

/-- The relation joins two different relation fields of the document: `p`, which comes first in
canonical order, on side A and `q` on side B. Each refers to the type of the other. A hint that the
two share names the relation; without one its name is computed. -/
structure Joins (d : Document) (r : Relation) (p q : Place) : Prop where
  inOrder : [p, q] <+ d.relationFields
  ne : p ≠ q
  sideA : r.a = p.toEnd
  sideB : r.b = q.toEnd
  target : p.2.typeName = q.1.name
  refersBack : q.2.typeName = p.1.name
  named :
    (∃ n, p.2.hint = some n ∧ q.2.hint = some n ∧ r.name = n ∧ r.hasExplicitName = true) ∨
    (p.2.hint = none ∧ q.2.hint = none ∧ r.name = r.computedName ∧ r.hasExplicitName = false)

/-- The set is a perfect matching of the relation fields of the document: every field is on exactly
one relation, on one side of it, every relation joins two fields, and the relations stand in the
order of the fields on their sides A. -/
structure IsMatching (set : RelationSet) (d : Document) : Prop where
  /-- An end determines the field that it stands for. -/
  ends_distinct : (d.relationFields.map Place.toEnd).Nodup
  relations_nodup : set.relations.Nodup
  covers : ∀ p : Place, p ∈ d.relationFields →
    ∃! x : Relation × Side, x.1 ∈ set.relations ∧ x.1.onSide x.2 = p.toEnd
  joins : ∀ r ∈ set.relations, ∃ p q, Joins d r p q
  ordered : (set.relations.map (·.a)) <+ d.relationFields.map Place.toEnd

/-- The relation of a field with its mutual counterpart joins the two. -/
theorem joins_pairing {p q : Place} (hpq : d.IsCounterpart p q) (hqp : d.IsCounterpart q p)
    (horder : [p, q] <+ d.relationFields) : Joins d (p.pairing q) p q := by
  refine ⟨horder, hpq.ne.symm, rfl, rfl, hpq.onTarget.symm, hpq.refersBack, ?_⟩
  cases hp : p.2.hint with
  | some n =>
      refine Or.inl ⟨n, rfl, hpq.hint n hp, ?_, ?_⟩
      · simp [Place.pairing, Relation.name, hp]
      · simp [Place.pairing, Relation.hasExplicitName, hp]
  | none =>
      refine Or.inr ⟨rfl, (hpq.hint_eq hqp).trans hp, ?_, ?_⟩
      · simp [Place.pairing, Relation.name, hp]
      · simp [Place.pairing, Relation.hasExplicitName, hp]

/-- Every field is on exactly one relation, on one side of it. -/
theorem Collected.covers_unique (h : Collected d d.relationFields set) {p : Place}
    (hp : p ∈ d.relationFields) :
    ∃! x : Relation × Side, x.1 ∈ set.relations ∧ x.1.onSide x.2 = p.toEnd := by
  obtain ⟨r, hr, hend⟩ := h.exists_mem_ends hp
  obtain ⟨side, hside⟩ := Relation.mem_ends_iff.mp hend
  refine ⟨(r, side), ⟨hr, hside⟩, ?_⟩
  rintro ⟨s, side'⟩ ⟨hs, hside'⟩
  obtain rfl := h.eq_of_mem_ends hs hr (hside' ▸ s.onSide_mem_ends side') hend
  obtain rfl := h.eq_of_onSide_eq hs (hside'.trans hside.symm)
  rfl

/-- **The relations of a resolved document are a perfect matching of its relation fields**: every
field is on exactly one relation and on one side of it, the two fields of a relation are different,
refer to each other's types and share their hint or have none, side A is the field that comes first,
and the relations stand in the order of their first fields. -/
theorem resolve_isMatching {objectTypes : List ObjectType} {enumTypes : List EnumType}
    (hd : Document.validated objectTypes enumTypes = .ok d) (h : resolve d = .ok set) :
    set.IsMatching d := by
  have hvalid := Document.valid_of_validated hd
  have hset := collected_of_resolve hvalid h
  refine ⟨?_, hset.nodup, fun p hp => hset.covers_unique hp, fun r hr => ?_, hset.ordered⟩
  · exact hvalid.relationFields_nodup.map_on fun p hp q hq => (hvalid.toEnd_inj hp hq).mp
  · obtain ⟨p, hp, q, hpq, horder, rfl⟩ := hset.pairs r hr
    exact ⟨p, q, joins_pairing hpq (hset.counterpart_symm hvalid hp hpq) horder⟩

end RelationSet

/-! ### A library -/

/-- A library of books by authors. An author may be the mentor of another one, and the relation of
books with their tags has a hint. -/
def Document.library : Document where
  objectTypes :=
    [ .of "Author"
        [ { name := "id", typeName := "ID", kind := .scalar .id, required := true },
          { name := "books", typeName := "Book", kind := .relation, list := true },
          { name := "mentor", typeName := "Author", kind := .relation },
          { name := "student", typeName := "Author", kind := .relation } ] {},
      .of "Book"
        [ { name := "id", typeName := "ID", kind := .scalar .id, required := true },
          { name := "author", typeName := "Author", kind := .relation },
          { name := "tags", typeName := "Tag", kind := .relation, list := true,
            options := { relationName := some "Tagging" } } ] {},
      .of "Tag"
        [ { name := "id", typeName := "ID", kind := .scalar .id, required := true },
          { name := "books", typeName := "Book", kind := .relation, list := true,
            options := { relationName := some "Tagging" } } ] {} ]
  enumTypes := []

namespace RelationSet

/-- The relations of the library: one-to-many, one-to-one on a single type, and many-to-many. -/
def library : RelationSet where
  relations :=
    [ ⟨⟨"Author", "books", true, false⟩, ⟨"Book", "author", false, false⟩, none⟩,
      ⟨⟨"Author", "mentor", false, false⟩, ⟨"Author", "student", false, false⟩, none⟩,
      ⟨⟨"Book", "tags", true, false⟩, ⟨"Tag", "books", true, false⟩, some "Tagging"⟩ ]

/-- The library is accepted and its relations are a perfect matching. -/
theorem library_isMatching :
    Document.validated Document.library.objectTypes [] = .ok Document.library ∧
      resolve .library = .ok library ∧ library.IsMatching .library := by
  have hd : Document.validated Document.library.objectTypes [] = .ok .library := by decide +kernel
  have h : resolve .library = .ok library := by decide +kernel
  exact ⟨hd, h, resolve_isMatching hd h⟩

end RelationSet

end DataModel
