import DataModel.Proofs.Document.Validity

/-!
# Which field comes first

Canonical order lists the object types as they are declared, and the relation fields of each type in
turn. That one field comes before another is said by the two-element sublist of both.

## Main results

* `List.pair_sublist_or`, `List.Nodup.pair_sublist_asymm`: of two different entries of a list
  without repetitions exactly one comes first.
* `Document.Valid.pair_sublist_iff`: on one object type, canonical order is the order of
  declaration.
-/

open scoped List

namespace List

variable {α : Type} {l : List α} {a b : α}

/-- Of two different entries one comes before the other. -/
theorem pair_sublist_or (ha : a ∈ l) (hb : b ∈ l) (hne : a ≠ b) : [a, b] <+ l ∨ [b, a] <+ l := by
  induction l with
  | nil => exact absurd ha not_mem_nil
  | cons x l ih =>
      rcases mem_cons.mp ha with rfl | hal
      · exact Or.inl ((singleton_sublist.mpr (mem_of_ne_of_mem hne.symm hb)).cons_cons a)
      · rcases mem_cons.mp hb with rfl | hbl
        · exact Or.inr ((singleton_sublist.mpr hal).cons_cons b)
        · exact (ih hal hbl).imp (·.cons x) (·.cons x)

/-- Without repetitions no two entries come before each other. -/
theorem Nodup.pair_sublist_asymm (h : l.Nodup) (hab : [a, b] <+ l) : ¬ [b, a] <+ l := by
  induction l with
  | nil => cases hab
  | cons x l ih =>
      obtain ⟨hx, hl⟩ := nodup_cons.mp h
      intro hba
      cases hab with
      | cons _ hab =>
          cases hba with
          | cons _ hba => exact ih hl hab hba
          | cons_cons _ hba => exact hx (hab.subset (by simp))
      | cons_cons _ hab =>
          cases hba with
          | cons _ hba => exact hx (hba.subset (by simp))
          | cons_cons _ hba => exact hx (singleton_sublist.mp hab)

end List

namespace DataModel.Document

variable {d : Document}

/-- Fields keep their order among the relation fields of the document. -/
theorem pair_sublist_relationFields {t : ObjectType} (ht : t ∈ d.objectTypes) {f g : Field}
    (hf : f.kind = .relation) (hg : g.kind = .relation) (h : [f, g] <+ t.fields) :
    [(t, f), (t, g)] <+ d.relationFields := by
  have hfilter : [f, g] <+ t.relationFields := by
    have hboth := h.filter (·.isRelation)
    simpa [Field.isRelation, hf, hg, ObjectType.relationFields] using hboth
  exact (hfilter.map (t, ·)).trans (List.sublist_flatten_of_mem (List.mem_map_of_mem ht))

/-- **On one object type** canonical order is the order of declaration. -/
theorem Valid.pair_sublist_iff (hd : d.Valid) {p q : ObjectType × Field}
    (hp : p ∈ d.relationFields) (hq : q ∈ d.relationFields) (htype : p.1 = q.1) (hne : p ≠ q) :
    [p, q] <+ d.relationFields ↔ [p.2, q.2] <+ q.1.fields := by
  obtain ⟨t, f⟩ := p
  obtain ⟨u, g⟩ := q
  obtain rfl : t = u := htype
  obtain ⟨ht, hft⟩ := mem_relationFields.mp hp
  obtain ⟨hf, hfk⟩ := mem_relationFields_type.mp hft
  obtain ⟨hg, hgk⟩ := mem_relationFields_type.mp (mem_relationFields.mp hq).2
  refine ⟨fun h => ?_, pair_sublist_relationFields ht hfk hgk⟩
  rcases List.pair_sublist_or hf hg (fun hfg => hne (by rw [hfg])) with hfg | hgf
  · exact hfg
  · exact absurd (pair_sublist_relationFields ht hgk hfk hgf)
      (hd.relationFields_nodup.pair_sublist_asymm h)

end DataModel.Document
