import DataModel.Proofs.Relation.Matching
import DataModel.Proofs.Relation.Precedence

/-!
# Reference columns

Which relation fields own a reference column can be said of the document alone: a single value that
faces a list does, and so does a single value that faces a single value, unless both stand on one
type and it is declared second. A resolved set answers the same through its sides.

## Main results

* `RelationSet.Collected.ends_perm`: the ends of the relations are the relation fields, each once.
* `RelationSet.Collected.forField?_eq_some_iff`: the look-up of a field finds exactly the relation
  and the side that it is on.
* `RelationSet.Collected.ownedColumn?_eq_some_iff`: the sides of a set give a field its column
  exactly when the document says that it owns one.
* `RelationSet.Collected.checkReferenceColumns_eq_ok_iff`: the check of the columns succeeds exactly
  when no two fields of a type have a column of the same name.
-/

open scoped List

namespace DataModel

namespace Document

/-- The relation field owns a reference column: it holds a single value, and its candidate is a list
or a single value, in the latter case not one that is declared before it on the same type. -/
def OwnsReference (d : Document) (p : Place) : Prop :=
  p.2.list = false ∧
    ∃ q, d.IsCandidate p q ∧ (q.2.list = true ∨ ¬(q.1 = p.1 ∧ [q.2, p.2] <+ p.1.fields))

/-- The columns of an object type by the fields that they belong to: a scalar or enum field has a
column of its own name, and a relation field its reference column if it owns one. -/
inductive HasColumn (d : Document) (t : ObjectType) : Field → String → Prop
  | value {f : Field} : f.isValue = true → HasColumn d t f f.name
  | reference {f : Field} : f.kind = .relation → d.OwnsReference (t, f) →
      HasColumn d t f (referenceColumn f.name)

/-- No two fields of an object type have a column of the same name. -/
def ColumnsDistinct (d : Document) (t : ObjectType) : Prop :=
  ∀ f ∈ t.fields, ∀ g ∈ t.fields, ∀ column, d.HasColumn t f column → d.HasColumn t g column → f = g

/-- A field that is no relation has a column of its own name. -/
theorem isValue_iff {f : Field} : f.isValue = true ↔ f.kind ≠ .relation := by
  cases h : f.kind <;> simp [Field.isValue, Field.isScalar, Field.isEnum, Field.scalar?, h]

/-- The column that a scalar or enum field has bears its name. -/
theorem hasColumn_value_iff {d : Document} {t : ObjectType} {f : Field} (hf : f.isValue = true)
    {column : String} : d.HasColumn t f column ↔ column = f.name := by
  constructor
  · rintro (- | ⟨hkind, -⟩)
    · rfl
    · exact absurd hkind (isValue_iff.mp hf)
  · rintro rfl
    exact .value hf

/-- Columns can only clash where a reference column is one of them. -/
theorem Valid.columnsDistinct_iff {d : Document} (hd : d.Valid) {t : ObjectType}
    (ht : t ∈ d.objectTypes) :
    d.ColumnsDistinct t ↔
      (∀ f ∈ t.relationFields, ∀ g ∈ t.relationFields, ∀ column,
        d.HasColumn t f column → d.HasColumn t g column → f = g) ∧
      ∀ f ∈ t.relationFields, ∀ g ∈ t.fields, g.isValue = true → ¬ d.HasColumn t f g.name := by
  have hfield : ∀ {f}, f ∈ t.relationFields → f ∈ t.fields := fun hf =>
    (mem_relationFields_type.mp hf).1
  have hrelation : ∀ {f}, f ∈ t.fields → ¬ f.isValue = true → f ∈ t.relationFields :=
    fun hf hkind => mem_relationFields_type.mpr ⟨hf, by simpa [isValue_iff] using hkind⟩
  constructor
  · intro hdistinct
    refine ⟨fun f hf g hg => hdistinct f (hfield hf) g (hfield hg), fun f hf g hg hgv hfg => ?_⟩
    obtain rfl := hdistinct f (hfield hf) g hg g.name hfg (.value hgv)
    exact isValue_iff.mp hgv (mem_relationFields_type.mp hf).2
  · rintro ⟨hreferences, hvalues⟩ f hf g hg column hfc hgc
    by_cases hfv : f.isValue = true <;> by_cases hgv : g.isValue = true
    · refine List.eq_of_map_nodup (hd.fieldNames_nodup t ht) hf hg ?_
      rw [← (hasColumn_value_iff hfv).mp hfc, ← (hasColumn_value_iff hgv).mp hgc]
    · obtain rfl := (hasColumn_value_iff hfv).mp hfc
      exact absurd hgc (hvalues g (hrelation hg hgv) f hf hfv)
    · obtain rfl := (hasColumn_value_iff hgv).mp hgc
      exact absurd hfc (hvalues f (hrelation hf hfv) g hg hgv)
    · exact hreferences f (hrelation hf hfv) g (hrelation hg hgv) column hfc hgc

end Document

namespace RelationSet

variable {d : Document} {set : RelationSet}

namespace Collected

/-- An end of a relation stands for a relation field of the document. -/
theorem exists_place {done : List Place} (h : Collected d done set) {r : Relation}
    (hr : r ∈ set.relations) (side : Side) :
    ∃ p : Place, p ∈ d.relationFields ∧ r.onSide side = p.toEnd := by
  obtain ⟨p, -, q, hpq, horder, rfl⟩ := h.pairs r hr
  cases side with
  | a => exact ⟨p, horder.subset (by simp), rfl⟩
  | b => exact ⟨q, hpq.mem, rfl⟩

/-- **The ends of the relations are the relation fields**, each once. -/
theorem ends_perm (hd : d.Valid) (h : Collected d d.relationFields set) :
    set.relations.flatMap (·.ends) ~ d.relationFields.map Place.toEnd := by
  have hnodup : (d.relationFields.map Place.toEnd).Nodup :=
    hd.relationFields_nodup.map_on fun p hp q hq => (hd.toEnd_inj hp hq).mp
  refine (List.perm_ext_iff_of_nodup h.ends_nodup hnodup).mpr fun e => ?_
  rw [List.mem_flatMap, List.mem_map]
  constructor
  · rintro ⟨r, hr, he⟩
    obtain ⟨side, rfl⟩ := Relation.mem_ends_iff.mp he
    obtain ⟨p, hp, hside⟩ := h.exists_place hr side
    exact ⟨p, hp, hside.symm⟩
  · rintro ⟨p, hp, rfl⟩
    exact h.exists_mem_ends hp

/-- **The look-up of a field** finds exactly the relation and the side that it is on. -/
theorem forField?_eq_some_iff {done : List Place} (hd : d.Valid) (h : Collected d done set)
    {t f : String} {r : Relation} {side : Side} :
    set.forField? t f = some (r, side) ↔
      r ∈ set.relations ∧ (r.onSide side).isField t f = true := by
  refine ⟨of_forField?_eq_some, fun ⟨hr, hfield⟩ => ?_⟩
  cases hfind : set.forField? t f with
  | none => simp [forField?_eq_none_iff.mp hfind r hr side] at hfield
  | some found =>
      obtain ⟨s, side'⟩ := found
      obtain ⟨hs, hfield'⟩ := of_forField?_eq_some hfind
      obtain ⟨p, hp, hpend⟩ := h.exists_place hr side
      obtain ⟨q, hq, hqend⟩ := h.exists_place hs side'
      rw [hpend] at hfield
      rw [hqend] at hfield'
      obtain ⟨htype, hname⟩ := Place.isField_toEnd.mp hfield
      obtain rfl : q = p := hd.eq_of_isField hq hp (by rwa [htype, hname])
      have hmem : q.toEnd ∈ r.ends := hpend ▸ r.onSide_mem_ends side
      obtain rfl := h.eq_of_mem_ends hs hr (hqend ▸ s.onSide_mem_ends side') hmem
      obtain rfl := h.eq_of_onSide_eq hs (hqend.trans hpend.symm)
      rfl

/-- The look-up of a relation field finds the relation and side with its end. -/
theorem forField?_place {done : List Place} (hd : d.Valid) (h : Collected d done set) {p : Place}
    (hp : p ∈ d.relationFields) {r : Relation} {side : Side} :
    set.forField? p.1.name p.2.name = some (r, side) ↔
      r ∈ set.relations ∧ r.onSide side = p.toEnd := by
  rw [h.forField?_eq_some_iff hd]
  refine and_congr_right fun hr => ?_
  obtain ⟨q, hq, hqend⟩ := h.exists_place hr side
  rw [hqend, hd.toEnd_inj hq hp]
  exact ⟨hd.eq_of_isField hq hp, fun hqp => hqp ▸ Place.isField_toEnd.mpr ⟨rfl, rfl⟩⟩

/-- Every relation field is found. -/
theorem exists_forField? (hd : d.Valid) (h : Collected d d.relationFields set) {p : Place}
    (hp : p ∈ d.relationFields) :
    ∃ r side, set.forField? p.1.name p.2.name = some (r, side) := by
  obtain ⟨r, hr, hend⟩ := h.exists_mem_ends hp
  obtain ⟨side, hside⟩ := Relation.mem_ends_iff.mp hend
  exact ⟨r, side, (h.forField?_place hd hp).mpr ⟨hr, hside⟩⟩

/-- Opposite a relation field stands its counterpart. -/
theorem onSide_opposite (hd : d.Valid) (h : Collected d d.relationFields set) {r : Relation}
    (hr : r ∈ set.relations) {side : Side} {p : Place} (hp : p ∈ d.relationFields)
    (hside : r.onSide side = p.toEnd) :
    ∃ q : Place, d.IsCounterpart p q ∧ r.onSide side.opposite = q.toEnd ∧
      (side = .a → [p, q] <+ d.relationFields) ∧ (side = .b → [q, p] <+ d.relationFields) := by
  obtain ⟨p', hp', q', hpq', horder, rfl⟩ := h.pairs r hr
  cases side with
  | a =>
      obtain rfl := (hd.toEnd_inj hp' hp).mp hside
      exact ⟨q', hpq', rfl, fun _ => horder, nofun⟩
  | b =>
      obtain rfl := (hd.toEnd_inj hpq'.mem hp).mp hside
      exact ⟨p', h.counterpart_symm hd hp' hpq', rfl, nofun, fun _ => horder⟩

end Collected

/-- What a side owns, in terms of the two ends that it has. -/
theorem ownsReference_iff {r : Relation} {side : Side} :
    r.ownsReference side = true ↔
      (r.onSide side).list = false ∧ ((r.onSide side.opposite).list = true ∨ side = .a ∨
        (r.onSide side).objectType ≠ (r.onSide side.opposite).objectType) := by
  obtain ⟨⟨t, f, l, q⟩, ⟨u, g, m, s⟩, hint⟩ := r
  cases side <;> cases l <;> cases m <;>
    simp [Relation.ownsReference, Relation.cardinality, Relation.onSide, Side.opposite,
      Relation.isSelfReferencing, @eq_comm _ u t]

/-- A relation is many-to-many when both of its ends are lists. -/
theorem cardinality_eq_manyToMany_iff {r : Relation} :
    r.cardinality = .manyToMany ↔ r.a.list = true ∧ r.b.list = true := by
  unfold Relation.cardinality
  cases r.a.list <;> cases r.b.list <;> simp

/-- A relation is one-to-one when neither of its ends is a list. -/
theorem cardinality_eq_oneToOne_iff {r : Relation} :
    r.cardinality = .oneToOne ↔ r.a.list = false ∧ r.b.list = false := by
  unfold Relation.cardinality
  cases r.a.list <;> cases r.b.list <;> simp

/-- Nothing is owned in a many-to-many relation. -/
theorem cardinality_ne_manyToMany {r : Relation} {side : Side} (h : r.ownsReference side = true) :
    r.cardinality ≠ .manyToMany := by
  intro hcard
  simp [Relation.ownsReference, hcard] at h

/-- Opposite the owner in a relation that is not one-to-one stands a list. -/
theorem list_opposite {r : Relation} {side : Side} (hcard : r.cardinality ≠ .oneToOne)
    (h : r.ownsReference side = true) : (r.onSide side.opposite).list = true := by
  rw [Ne, cardinality_eq_oneToOne_iff] at hcard
  have hsingle := (ownsReference_iff.mp h).1
  cases side <;> simp_all [Relation.onSide, Side.opposite]

/-- Where a side of a relation that is not many-to-many owns nothing, the other side does. -/
theorem ownsReference_opposite {r : Relation} {side : Side} (hcard : r.cardinality ≠ .manyToMany)
    (h : ¬ r.ownsReference side = true) : r.ownsReference side.opposite = true := by
  rw [Ne, cardinality_eq_manyToMany_iff] at hcard
  rw [ownsReference_iff] at h ⊢
  cases side <;> cases ha : r.a.list <;> cases hb : r.b.list <;>
    simp_all [Relation.onSide, Side.opposite]

namespace Collected

/-- **A side owns a reference column** exactly when its field does. -/
theorem ownsReference_iff (hd : d.Valid) (h : Collected d d.relationFields set) {r : Relation}
    (hr : r ∈ set.relations) {side : Side} {p : Place} (hp : p ∈ d.relationFields)
    (hside : r.onSide side = p.toEnd) :
    r.ownsReference side = true ↔ d.OwnsReference p := by
  obtain ⟨q, hpq, hopp, hfirst, hsecond⟩ := h.onSide_opposite hd hr hp hside
  -- The field stands second on its type exactly when it is side B of a self-reference.
  have hlater : (q.1 = p.1 ∧ [q.2, p.2] <+ p.1.fields) ↔ side = .b ∧ p.1.name = q.1.name := by
    have hqp : q ∈ d.relationFields := hpq.mem
    constructor
    · rintro ⟨htype, horder⟩
      refine ⟨?_, by rw [htype]⟩
      cases side with
      | b => rfl
      | a =>
          have hcanon := (hd.pair_sublist_iff hqp hp htype hpq.ne).mpr horder
          exact absurd hcanon (hd.relationFields_nodup.pair_sublist_asymm (hfirst rfl))
    · rintro ⟨rfl, hname⟩
      have htype : q.1 = p.1 := List.eq_of_map_nodup hd.objectNames_nodup
        (Document.mem_relationFields.mp hqp).1 (Document.mem_relationFields.mp hp).1 hname.symm
      exact ⟨htype, (hd.pair_sublist_iff hqp hp htype hpq.ne).mp (hsecond rfl)⟩
  have hside_or : ¬(side = .b ∧ p.1.name = q.1.name) ↔ side = .a ∨ p.1.name ≠ q.1.name := by
    cases side <;> simp
  rw [RelationSet.ownsReference_iff, hside, hopp]
  refine and_congr_right fun _ => ?_
  constructor
  · intro howns
    exact ⟨q, hpq.toIsCandidate, howns.imp_right fun h => mt hlater.mp (hside_or.mpr h)⟩
  · rintro ⟨q', hq', howns⟩
    obtain rfl := hpq.only q' hq'
    exact howns.imp_right fun h => hside_or.mp (mt hlater.mpr h)

/-- **A field gets a reference column** from the set exactly when it owns one, and then its own. -/
theorem ownedColumn?_eq_some_iff (hd : d.Valid) (h : Collected d d.relationFields set) {p : Place}
    (hp : p ∈ d.relationFields) {column : String} :
    set.ownedColumn? p.1.name p.2.name = some column ↔
      d.OwnsReference p ∧ column = referenceColumn p.2.name := by
  obtain ⟨r, side, hfind⟩ := h.exists_forField? hd hp
  obtain ⟨hr, hside⟩ := (h.forField?_place hd hp).mp hfind
  have hname : r.referenceColumn side = referenceColumn p.2.name := by
    rw [Relation.referenceColumn, hside]
    rfl
  simp only [ownedColumn?, hfind, hname]
  rw [← h.ownsReference_iff hd hr hp hside]
  cases howns : r.ownsReference side with
  | true => simpa using eq_comm
  | false => simp

end Collected

/-! ### The check of the columns -/

/-- The check of a type succeeds when the columns of its relation fields differ from each other and
from those held. -/
theorem checkColumns_eq_ok_iff {t : String} {held : List (String × ColumnHolder)}
    {fields : List Field} :
    set.checkColumns t held fields = .ok () ↔
      (fields.filterMap fun f => set.ownedColumn? t f.name).Nodup ∧
        ∀ f ∈ fields, ∀ column, set.ownedColumn? t f.name = some column →
          ∀ e ∈ held, e.1 ≠ column := by
  induction fields generalizing held with
  | nil => simp [checkColumns]
  | cons f rest ih =>
      rw [checkColumns]
      cases howned : set.ownedColumn? t f.name with
      | none => simp [howned, ih]
      | some column =>
          dsimp only
          cases hheld : held.lookup column with
          | some holder =>
              have htaken : ¬ ∀ e ∈ held, e.1 ≠ column := fun hall => by
                rw [List.lookup_eq_none_iff_forall.mpr hall] at hheld
                cases hheld
              simp only [reduceCtorEq, false_iff, not_and]
              exact fun _ hall => htaken (hall f List.mem_cons_self column howned)
          | none =>
              have hfree := List.lookup_eq_none_iff_forall.mp hheld
              simp only [ih, List.filterMap_cons, howned, List.nodup_cons, List.forall_mem_cons,
                List.mem_filterMap, not_exists, not_and]
              constructor
              · rintro ⟨hnodup, hrest⟩
                refine ⟨⟨fun g hg hcolumn => (hrest g hg column hcolumn).1 rfl, hnodup⟩,
                  fun column' hcolumn' => ?_, fun g hg column' hcolumn' =>
                  (hrest g hg column' hcolumn').2⟩
                obtain rfl := Option.some.inj hcolumn'
                exact hfree
              · rintro ⟨⟨hnew, hnodup⟩, -, hrest⟩
                refine ⟨hnodup, fun g hg column' hcolumn' => ⟨?_, hrest g hg column' hcolumn'⟩⟩
                rintro rfl
                exact hnew g hg hcolumn'

/-- The columns that a relation field has are the one that the set gives it. -/
theorem Collected.hasColumn_iff (hd : d.Valid) (h : Collected d d.relationFields set)
    {t : ObjectType} {f : Field} (hf : (t, f) ∈ d.relationFields) {column : String} :
    d.HasColumn t f column ↔ set.ownedColumn? t.name f.name = some column := by
  have hkind := (Document.mem_relationFields_type.mp (Document.mem_relationFields.mp hf).2).2
  rw [h.ownedColumn?_eq_some_iff hd hf]
  constructor
  · rintro (hvalue | ⟨-, howns⟩)
    · exact absurd hkind (Document.isValue_iff.mp hvalue)
    · exact ⟨howns, rfl⟩
  · rintro ⟨howns, rfl⟩
    exact .reference hkind howns

/-- **The check of the columns** succeeds exactly when no two fields of a type have a column of the
same name. -/
theorem Collected.checkReferenceColumns_eq_ok_iff (hd : d.Valid)
    (h : Collected d d.relationFields set) :
    set.checkReferenceColumns d = .ok () ↔ ∀ t ∈ d.objectTypes, d.ColumnsDistinct t := by
  rw [checkReferenceColumns, List.forM_eq_ok_iff]
  refine forall₂_congr fun t ht => ?_
  have hcolumn : ∀ {f}, f ∈ t.relationFields → ∀ {column},
      d.HasColumn t f column ↔ set.ownedColumn? t.name f.name = some column := fun hf =>
    h.hasColumn_iff hd (Document.mem_relationFields.mpr ⟨ht, hf⟩)
  rw [checkColumns_eq_ok_iff, List.nodup_filterMap_iff (hd.relationFields_nodup_type ht),
    hd.columnsDistinct_iff ht]
  refine and_congr ?references ?held
  case references =>
    refine forall₂_congr fun f hf => forall₂_congr fun g hg => forall_congr' fun column => ?_
    rw [hcolumn hf, hcolumn hg]
  case held =>
    refine forall₂_congr fun f hf => ?_
    simp only [List.forall_mem_map, List.mem_filter, ← hcolumn hf]
    constructor
    · intro hheld g hg hvalue hfg
      refine hheld g.name hfg g ⟨hg, ?_⟩ rfl
      simpa [Field.isRelation] using Document.isValue_iff.mp hvalue
    · rintro hvalues column hfc g ⟨hg, hvalue⟩ rfl
      exact hvalues g hg (Document.isValue_iff.mpr (by simpa [Field.isRelation] using hvalue)) hfc

end RelationSet

end DataModel
