import DataModel.Proofs.Document.Validity
import DataModel.Proofs.Relation.Symmetry
import DataModel.Relation.Resolution

/-!
# Candidates and counterparts

What a relation field may pair with, said without lists: a candidate is another relation field on
the target type that refers back and carries the hint, if there is one. A counterpart is an only
candidate. The search through the fields of the target type finds exactly the counterpart.

## Main results

* `RelationSet.mem_candidates_iff`: the search lists exactly the candidates.
* `RelationSet.pairOf_eq_ok_iff`: a field forms a relation exactly when it has a counterpart, and
  then with it.
-/

namespace DataModel

/-- A field together with the object type that declares it. -/
abbrev Place := ObjectType × Field

/-- The end of a relation at a place. -/
def Place.toEnd (p : Place) : RelationEnd := RelationEnd.of p.1 p.2

/-- The relation from a place to another, named by the hint of the first. -/
def Place.pairing (p q : Place) : Relation := ⟨p.toEnd, q.toEnd, p.2.hint⟩

/-- The end of a place stands on its type. -/
@[simp] theorem Place.toEnd_objectType (p : Place) : p.toEnd.objectType = p.1.name := rfl

/-- The ends of the relation from a place to another are those of the two. -/
theorem Place.mem_ends_pairing_iff {p q : Place} {e : RelationEnd} :
    e ∈ (p.pairing q).ends ↔ e = p.toEnd ∨ e = q.toEnd := by
  simp [Relation.ends, Place.pairing]

/-- The place with this end stands on the type and field of the names. -/
theorem Place.isField_toEnd {p : Place} {t f : String} :
    p.toEnd.isField t f = true ↔ p.1.name = t ∧ p.2.name = f :=
  RelationEnd.isField_iff

namespace Document

/-- A relation field that `p` may pair with: another one, on the target type of `p`, that refers
back to the type of `p` and carries the hint of `p` if there is one. -/
structure IsCandidate (d : Document) (p q : Place) : Prop where
  mem : q ∈ d.relationFields
  onTarget : q.1.name = p.2.typeName
  refersBack : q.2.typeName = p.1.name
  ne : q ≠ p
  hint : ∀ h, p.2.hint = some h → q.2.hint = some h

/-- The only candidate of a relation field. -/
structure IsCounterpart (d : Document) (p q : Place) : Prop extends d.IsCandidate p q where
  only : ∀ r, d.IsCandidate p r → r = q

/-- A field has one counterpart at most. -/
theorem IsCounterpart.unique {d : Document} {p q r : Place} (hq : d.IsCounterpart p q)
    (hr : d.IsCounterpart p r) : q = r :=
  hr.only q hq.toIsCandidate

/-- A unique candidate is a counterpart. -/
theorem isCounterpart_of_existsUnique {d : Document} {p : Place}
    (h : ∃! q, d.IsCandidate p q) : ∃ q, d.IsCounterpart p q := by
  obtain ⟨q, hq, honly⟩ := h
  exact ⟨q, hq, honly⟩

/-- Counterparts of each other carry the same hint. -/
theorem IsCounterpart.hint_eq {d : Document} {p q : Place} (hpq : d.IsCounterpart p q)
    (hqp : d.IsCounterpart q p) : q.2.hint = p.2.hint := by
  cases hp : p.2.hint with
  | some h => exact hpq.hint h hp
  | none =>
      cases hq : q.2.hint with
      | none => rfl
      | some h => exact absurd (hqp.hint h hq) (by simp [hp])

/-- Counterparts of each other form one relation, whichever is met first. -/
theorem IsCounterpart.pairing_swap {d : Document} {p q : Place} (hpq : d.IsCounterpart p q)
    (hqp : d.IsCounterpart q p) : (Place.pairing p q).swap = Place.pairing q p := by
  rw [Place.pairing, Place.pairing, Relation.swap, hpq.hint_eq hqp]

/-- The ends of the relation fields tell them apart. -/
theorem Valid.toEnd_inj {d : Document} (hd : d.Valid) {p q : Place} (hp : p ∈ d.relationFields)
    (hq : q ∈ d.relationFields) : p.toEnd = q.toEnd ↔ p = q := by
  refine ⟨fun h => ?_, fun h => h ▸ rfl⟩
  obtain ⟨htype, hfield, -, -⟩ := RelationEnd.mk.inj h
  exact hd.eq_of_names_eq hp hq htype hfield

/-- The end of a relation field is the field with the names of another one only if both are the
same. -/
theorem Valid.eq_of_isField {d : Document} (hd : d.Valid) {p q : Place}
    (hp : p ∈ d.relationFields) (hq : q ∈ d.relationFields)
    (h : p.toEnd.isField q.1.name q.2.name = true) : p = q :=
  hd.eq_of_names_eq hp hq (Place.isField_toEnd.mp h).1 (Place.isField_toEnd.mp h).2

end Document

namespace RelationSet

variable {d : Document} {p : Place}

/-- **The search lists exactly the candidates.** -/
theorem mem_candidates_iff (hd : d.Valid) (hp : p ∈ d.relationFields) {target : ObjectType}
    (htarget : target ∈ d.objectTypes) (hname : target.name = p.2.typeName) {c : Field} :
    c ∈ candidates p.1 p.2 target ↔ d.IsCandidate p (target, c) := by
  simp only [candidates, List.mem_filter, Bool.and_eq_true, beq_iff_eq, Bool.not_eq_true',
    Bool.and_eq_false_iff, beq_eq_false_iff_ne, Bool.or_eq_true, Option.isNone_iff_eq_none]
  constructor
  · rintro ⟨hc, ⟨hback, hne⟩, hhint⟩
    refine ⟨Document.mem_relationFields.mpr ⟨htarget, hc⟩, hname, hback, ?_, fun h hh => ?_⟩
    · rintro rfl
      rcases hne with hne | hne <;> exact hne rfl
    · rcases hhint with hnone | heq
      · exact absurd hh (by simp [hnone])
      · exact heq.trans hh
  · intro h
    refine ⟨(Document.mem_relationFields.mp h.mem).2, ⟨h.refersBack, ?_⟩, ?_⟩
    · by_contra hsame
      rw [not_or, not_not, not_not] at hsame
      exact h.ne (hd.eq_of_names_eq h.mem hp hsame.1 hsame.2)
    · cases hh : p.2.hint with
      | none => exact Or.inl rfl
      | some hint => exact Or.inr (h.hint hint hh)

/-- A candidate on the target type is the counterpart of a field exactly when the search finds it
alone. -/
theorem candidates_eq_singleton_iff (hd : d.Valid) (hp : p ∈ d.relationFields)
    {target : ObjectType} (htarget : target ∈ d.objectTypes)
    (hname : target.name = p.2.typeName) {c : Field} :
    candidates p.1 p.2 target = [c] ↔ d.IsCounterpart p (target, c) := by
  have hmem := fun {c : Field} => mem_candidates_iff hd hp htarget hname (c := c)
  -- Every candidate stands on the target type, which its name determines.
  have htype : ∀ q, d.IsCandidate p q → q = (target, q.2) := fun q hq => by
    have hq₁ : q.1 = target := List.eq_of_map_nodup hd.objectNames_nodup
      (Document.mem_relationFields.mp hq.mem).1 htarget (hq.onTarget.trans hname.symm)
    rw [← hq₁]
  constructor
  · intro h
    refine ⟨hmem.mp (h ▸ List.mem_singleton_self c), fun q hq => ?_⟩
    have hq₂ : q.2 ∈ candidates p.1 p.2 target := hmem.mpr (htype q hq ▸ hq)
    rw [h, List.mem_singleton] at hq₂
    rw [htype q hq, hq₂]
  · intro h
    refine List.perm_singleton.mp ((List.perm_ext_iff_of_nodup ?_ (List.nodup_singleton c)).mpr ?_)
    · exact (hd.relationFields_nodup_type htarget).filter _
    · intro c'
      rw [hmem, List.mem_singleton]
      constructor
      · intro hc'
        exact (Prod.mk.inj (h.only _ hc')).2
      · rintro rfl
        exact h.toIsCandidate

/-- A counterpart is found exactly when there is one candidate. -/
theorem counterpart_eq_ok_iff {source target : ObjectType} {f c : Field} :
    counterpart source f target = .ok c ↔ candidates source f target = [c] := by
  unfold counterpart
  split <;> simp_all

/-- **A field forms a relation** exactly when it has a counterpart, and then with it. -/
theorem pairOf_eq_ok_iff (hd : d.Valid) (hp : p ∈ d.relationFields) {r : Relation} :
    pairOf d p.1 p.2 = .ok r ↔ ∃ q, d.IsCounterpart p q ∧ r = p.pairing q := by
  obtain ⟨target, htarget, hname⟩ := hd.exists_target hp
  have hlookup := hd.objectType?_eq_some_iff.mpr ⟨htarget, hname⟩
  simp only [pairOf, hlookup, Except.bind_eq_ok_iff, Except.pure_eq_ok_iff]
  constructor
  · rintro ⟨c, hc, rfl⟩
    have hcand := counterpart_eq_ok_iff.mp hc
    exact ⟨(target, c), (candidates_eq_singleton_iff hd hp htarget hname).mp hcand, rfl⟩
  · rintro ⟨⟨t, c⟩, hq, rfl⟩
    obtain rfl : t = target := List.eq_of_map_nodup hd.objectNames_nodup
      (Document.mem_relationFields.mp hq.mem).1 htarget (hq.onTarget.trans hname.symm)
    have hcand := (candidates_eq_singleton_iff hd hp htarget hname).mpr hq
    exact ⟨c, counterpart_eq_ok_iff.mpr hcand, rfl⟩

end RelationSet

end DataModel
