import DataModel.Proofs.Relation.Candidates

/-!
# The collection of relations

`RelationSet.resolve` walks over the relation fields and adds the relation of each to a set. One
step either meets a pair that the set holds already or adds a pair whose name and ends are new
(`RelationSet.insert_eq_ok_iff`). From this alone follows what a set looks like on the way
(`RelationSet.Collected`): names and ends do not repeat, every field behind is on a relation with
its counterpart, and the relations stand in the order of their first fields.

## Main results

* `RelationSet.insert_eq_ok_iff`: all that an insertion can do.
* `RelationSet.step_eq_ok_iff`: all that a step can do, in terms of counterparts.
* `RelationSet.Collected.step`: a step preserves the invariant.
* `RelationSet.collected_of_resolve`: every resolved set satisfies it for all relation fields.
-/

open scoped List

namespace DataModel

namespace RelationSet

/-! ### Look-ups in a set -/

/-- A field is on no side of a relation when neither end is that field. -/
theorem sideOf?_eq_none_iff {r : Relation} {t f : String} :
    r.sideOf? t f = none ↔ ∀ side, (r.onSide side).isField t f = false := by
  rw [Side.forall_iff]
  unfold Relation.sideOf?
  cases ha : r.a.isField t f <;> cases hb : r.b.isField t f <;>
    simp [Relation.onSide, ha, hb]

/-- A side that is found for a field is one that the field is on. -/
theorem isField_of_sideOf?_eq_some {r : Relation} {t f : String} {side : Side}
    (h : r.sideOf? t f = some side) : (r.onSide side).isField t f = true := by
  unfold Relation.sideOf? at h
  split at h
  · obtain rfl := Option.some.inj h
    assumption
  · split at h
    · obtain rfl := Option.some.inj h
      assumption
    · cases h

/-- No relation of a set has the name that a look-up does not find. -/
theorem get?_eq_none_iff {set : RelationSet} {n : String} :
    set.get? n = none ↔ ∀ r ∈ set.relations, r.name ≠ n :=
  List.find?_name_eq_none_iff

/-- A field that is not found is on no relation of the set. -/
theorem forField?_eq_none_iff {set : RelationSet} {t f : String} :
    set.forField? t f = none ↔
      ∀ r ∈ set.relations, ∀ side, (r.onSide side).isField t f = false := by
  simp only [forField?, List.findSome?_eq_none_iff, Option.map_eq_none_iff, sideOf?_eq_none_iff]

/-- A relation that is found for a field has it on the side found. -/
theorem of_forField?_eq_some {set : RelationSet} {t f : String} {r : Relation} {side : Side}
    (h : set.forField? t f = some (r, side)) :
    r ∈ set.relations ∧ (r.onSide side).isField t f = true := by
  obtain ⟨s, hs, hsome⟩ := List.exists_of_findSome?_eq_some h
  obtain ⟨side', hside, heq⟩ := Option.map_eq_some_iff.mp hsome
  obtain ⟨rfl, rfl⟩ := Prod.mk.inj heq
  exact ⟨hs, isField_of_sideOf?_eq_some hside⟩

/-! ### Insertion -/

/-- The ends of a relation are new to a set: none of them is a field of a relation of the set. -/
def EndsFresh (set : RelationSet) (r : Relation) : Prop :=
  ∀ side, set.forField? (r.onSide side).objectType (r.onSide side).field = none

/-- The search for an end that is taken comes back empty when both ends are new. -/
theorem findSome?_eq_none_iff_endsFresh {set : RelationSet} {r : Relation} :
    (Side.both.findSome? fun side =>
      (set.forField? (r.onSide side).objectType (r.onSide side).field).map (side, ·.1)) = none ↔
      set.EndsFresh r := by
  rw [EndsFresh, Side.forall_iff]
  simp [Side.both]

/-- **All that an insertion can do**: nothing, if a relation of that name has the same pair, or add
the relation, if its name and its ends are new. -/
theorem insert_eq_ok_iff {set set' : RelationSet} {r : Relation} :
    set.insert r = .ok set' ↔
      (∃ e, set.get? r.name = some e ∧ e.samePair r = true ∧ set' = set) ∨
      (set.get? r.name = none ∧ set.EndsFresh r ∧ set' = ⟨set.relations ++ [r]⟩) := by
  unfold insert
  cases hget : set.get? r.name with
  | some e =>
      by_cases hsame : e.samePair r = true
      · simpa [hsame] using eq_comm
      · simp [hsame]
  | none =>
      cases hfind : Side.both.findSome? fun side =>
          (set.forField? (r.onSide side).objectType (r.onSide side).field).map (side, ·.1) with
      | none => simpa [findSome?_eq_none_iff_endsFresh.mp hfind] using eq_comm
      | some taken =>
          have hnot : ¬ set.EndsFresh r := fun hfresh => by
            rw [findSome?_eq_none_iff_endsFresh.mpr hfresh] at hfind
            cases hfind
          simp [hnot]

/-- All that a step can do, in terms of counterparts. -/
theorem step_eq_ok_iff {d : Document} (hd : d.Valid) {p : Place} (hp : p ∈ d.relationFields)
    {set set' : RelationSet} :
    step d set p = .ok set' ↔
      ∃ q, d.IsCounterpart p q ∧ set.insert (p.pairing q) = .ok set' := by
  rw [step, Except.bind_eq_ok_iff]
  constructor
  · rintro ⟨r, hr, hinsert⟩
    obtain ⟨q, hq, rfl⟩ := (pairOf_eq_ok_iff hd hp).mp hr
    exact ⟨q, hq, hinsert⟩
  · rintro ⟨q, hq, hinsert⟩
    exact ⟨p.pairing q, (pairOf_eq_ok_iff hd hp).mpr ⟨q, hq, rfl⟩, hinsert⟩

/-! ### The invariant -/

/-- What a set looks like when the relations of the fields in `done` have been collected. -/
structure Collected (d : Document) (done : List Place) (set : RelationSet) : Prop where
  /-- Every relation pairs a field behind with its counterpart, which stands after it. -/
  pairs : ∀ r ∈ set.relations, ∃ p ∈ done, ∃ q, d.IsCounterpart p q ∧
    [p, q] <+ d.relationFields ∧ r = p.pairing q
  /-- Every field behind is paired with its counterpart under the name that it asked for. -/
  covers : ∀ p ∈ done, ∃ q, d.IsCounterpart p q ∧ ∃ r ∈ set.relations,
    r.samePair (p.pairing q) = true ∧ r.name = (p.pairing q).name
  names_nodup : (set.relations.map (·.name)).Nodup
  ends_nodup : (set.relations.flatMap (·.ends)).Nodup
  /-- The relations stand in the order of their first fields. -/
  ordered : (set.relations.map (·.a)) <+ done.map Place.toEnd

variable {d : Document} {done rest : List Place} {p : Place} {set set' : RelationSet}

/-- Nothing has been collected at first. -/
theorem Collected.nil : Collected d [] ⟨[]⟩ :=
  ⟨by simp, by simp, by simp, by simp, by simp⟩

/-- A place on a relation of the set is not new to it. -/
theorem not_endsFresh_of_mem {r s : Relation} (hr : r ∈ set.relations) {q : Place}
    (hend : q.toEnd ∈ r.ends) (hs : q.toEnd ∈ s.ends) : ¬ set.EndsFresh s := by
  intro hfresh
  obtain ⟨side, hside⟩ := Relation.mem_ends_iff.mp hs
  obtain ⟨side', hside'⟩ := Relation.mem_ends_iff.mp hend
  have hnone := forField?_eq_none_iff.mp (hfresh side) r hr side'
  rw [hside', hside] at hnone
  simp [Place.toEnd, RelationEnd.of, RelationEnd.isField] at hnone

/-- The ends of a new relation are not ends of the set. -/
theorem EndsFresh.disjoint {r : Relation} (h : set.EndsFresh r) :
    ∀ e ∈ r.ends, e ∉ set.relations.flatMap (·.ends) := by
  intro e he hmem
  obtain ⟨side, rfl⟩ := Relation.mem_ends_iff.mp he
  obtain ⟨s, hs, hes⟩ := List.mem_flatMap.mp hmem
  obtain ⟨side', hside'⟩ := Relation.mem_ends_iff.mp hes
  have hnone := forField?_eq_none_iff.mp (h side) s hs side'
  rw [hside'] at hnone
  simp [RelationEnd.isField] at hnone

/-- A field behind is on a relation of the set. -/
theorem Collected.exists_mem_ends (h : Collected d done set) (hp : p ∈ done) :
    ∃ r ∈ set.relations, p.toEnd ∈ r.ends := by
  obtain ⟨q, -, r, hr, hsame, -⟩ := h.covers p hp
  have hends : p.toEnd ∈ (Place.pairing p q).ends := Place.mem_ends_pairing_iff.mpr (.inl rfl)
  exact ⟨r, hr, (Relation.mem_ends_of_samePair hsame).mpr hends⟩

/-- Meeting a pair of the set again keeps the invariant. -/
theorem Collected.skip (h : Collected d done set) {q : Place} (hq : d.IsCounterpart p q)
    {e : Relation} (he : set.get? (p.pairing q).name = some e)
    (hsame : e.samePair (p.pairing q) = true) : Collected d (done ++ [p]) set := by
  refine ⟨fun r hr => ?_, fun p' hp' => ?_, h.names_nodup, h.ends_nodup, ?_⟩
  · obtain ⟨p', hp', hpair⟩ := h.pairs r hr
    exact ⟨p', List.mem_append_left _ hp', hpair⟩
  · rcases List.mem_append.mp hp' with hp' | hp'
    · exact h.covers p' hp'
    · obtain rfl := List.mem_singleton.mp hp'
      have hname : e.name = (p'.pairing q).name := by simpa using List.find?_some he
      exact ⟨q, hq, e, List.mem_of_find?_eq_some he, hsame, hname⟩
  · rw [List.map_append]
    exact h.ordered.trans (List.sublist_append_left _ _)

/-- A pair that is new to the set stands in the order of the fields: its second field cannot lie
behind, for then it would be on a relation of the set. -/
theorem Collected.pair_sublist (h : Collected d done set)
    (hl : d.relationFields = done ++ p :: rest) {q : Place} (hq : d.IsCounterpart p q)
    (hfresh : set.EndsFresh (p.pairing q)) :
    [p, q] <+ d.relationFields := by
  have hnotdone : q ∉ done := fun hmem => by
    obtain ⟨r, hr, hend⟩ := h.exists_mem_ends hmem
    exact not_endsFresh_of_mem hr hend (Place.mem_ends_pairing_iff.mpr (.inr rfl)) hfresh
  have hrest : q ∈ rest := by
    have hmem := hl ▸ hq.mem
    simpa [hnotdone, hq.ne] using hmem
  rw [hl]
  exact (List.nil_sublist done).append ((List.singleton_sublist.mpr hrest).cons_cons p)

/-- Adding a new pair keeps the invariant. -/
theorem Collected.add (hd : d.Valid) (h : Collected d done set)
    (hl : d.relationFields = done ++ p :: rest) {q : Place} (hq : d.IsCounterpart p q)
    (hname : set.get? (p.pairing q).name = none) (hfresh : set.EndsFresh (p.pairing q)) :
    Collected d (done ++ [p]) ⟨set.relations ++ [p.pairing q]⟩ := by
  have hp : p ∈ d.relationFields := by simp [hl]
  have hne : p.toEnd ≠ q.toEnd := fun he => hq.ne ((hd.toEnd_inj hp hq.mem).mp he).symm
  refine ⟨fun r hr => ?_, fun p' hp' => ?_, ?_, ?_, ?_⟩
  · rcases List.mem_append.mp hr with hr | hr
    · obtain ⟨p', hp', hpair⟩ := h.pairs r hr
      exact ⟨p', List.mem_append_left _ hp', hpair⟩
    · exact ⟨p, by simp, q, hq, h.pair_sublist hl hq hfresh, List.mem_singleton.mp hr⟩
  · rcases List.mem_append.mp hp' with hp' | hp'
    · obtain ⟨q', hq', r, hr, hpair⟩ := h.covers p' hp'
      exact ⟨q', hq', r, List.mem_append_left _ hr, hpair⟩
    · obtain rfl := List.mem_singleton.mp hp'
      exact ⟨q, hq, p'.pairing q, by simp, Relation.samePair_iff.mpr (Or.inl ⟨rfl, rfl⟩), rfl⟩
  · rw [List.map_append, List.nodup_append]
    refine ⟨h.names_nodup, List.nodup_singleton _, ?_⟩
    intro n hn m hm
    obtain ⟨r, hr, rfl⟩ := List.mem_map.mp hn
    obtain rfl := List.mem_singleton.mp hm
    exact get?_eq_none_iff.mp hname r hr
  · rw [List.flatMap_append, List.nodup_append]
    refine ⟨h.ends_nodup, by simpa [Relation.ends, Place.pairing] using hne, ?_⟩
    rintro e he e' he' rfl
    exact hfresh.disjoint e (by simpa using he') he
  · rw [List.map_append, List.map_append]
    exact h.ordered.append (List.Sublist.refl _)

/-- **A step preserves the invariant.** -/
theorem Collected.step (hd : d.Valid) (h : Collected d done set)
    (hl : d.relationFields = done ++ p :: rest) (hs : RelationSet.step d set p = .ok set') :
    Collected d (done ++ [p]) set' := by
  obtain ⟨q, hq, hinsert⟩ := (step_eq_ok_iff hd (by simp [hl])).mp hs
  rcases insert_eq_ok_iff.mp hinsert with ⟨e, he, hsame, rfl⟩ | ⟨hname, hfresh, rfl⟩
  · exact h.skip hq he hsame
  · exact h.add hd hl hq hname hfresh

/-! ### The whole walk -/

/-- A document is resolved when its hints are in order, the walk over its relation fields succeeds
and the set that comes out of it passes both checks. -/
theorem resolve_eq_ok_iff :
    resolve d = .ok set ↔
      checkHints d = .ok () ∧ d.relationFields.foldlM (step d) ⟨[]⟩ = .ok set ∧
        set.checkPrimaryKeys d = .ok () ∧ set.checkReferenceColumns d = .ok () := by
  simp only [resolve, Except.bind_eq_ok_iff, Except.pure_eq_ok_iff]
  constructor
  · rintro ⟨_, hhints, _, hwalk, _, hkeys, _, hcolumns, rfl⟩
    exact ⟨hhints, hwalk, hkeys, hcolumns⟩
  · rintro ⟨hhints, hwalk, hkeys, hcolumns⟩
    exact ⟨(), hhints, set, hwalk, (), hkeys, (), hcolumns, rfl⟩

/-- A successful walk has collected the relations of all fields. -/
theorem collected_of_walk (hd : d.Valid)
    (h : d.relationFields.foldlM (RelationSet.step d) ⟨[]⟩ = .ok set) :
    Collected d d.relationFields set :=
  List.foldlM_invariant (Collected d)
    (fun _ _ _ _ _ hl hI hs => hI.step hd hl hs) h Collected.nil

/-- **Every resolved set** has collected the relations of all fields. -/
theorem collected_of_resolve (hd : d.Valid) (h : resolve d = .ok set) :
    Collected d d.relationFields set :=
  collected_of_walk hd (resolve_eq_ok_iff.mp h).2.1

end RelationSet

end DataModel
