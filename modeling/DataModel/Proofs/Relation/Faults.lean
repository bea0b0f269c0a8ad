import DataModel.Proofs.Relation.Resolvability

/-!
# What the errors of the resolution say

An error of `RelationSet.resolve` is put together from what the walk has collected so far, but what
it says can be read as a statement about the document alone: `Document.Exhibits` has one constructor
for each kind of error. That every reported error is exhibited follows stage by stage, from what an
insertion can fail with and from the invariant of the walk.

## Main results

* `RelationSet.of_insert_eq_error`: all that an insertion can fail with.
* `RelationSet.Collected.step_failsOnly`: a step fails only with what the document exhibits.
* `RelationSet.exhibits_of_resolve_eq_error`: **every error of the resolution** is exhibited by the
  document.
* `Document.Exhibits.not_resolvable`: a document that exhibits a fault cannot be resolved.
-/

open scoped List

namespace DataModel

namespace Document

/-- A relation field and its only candidate. -/
structure IsPair (d : Document) (p q : Place) : Prop extends d.IsCounterpart p q where
  source : p ∈ d.relationFields

/-- The pair `p'`, `q'` is neither the pair `p`, `q` nor that pair from its other side. -/
def PairsDiffer (p q p' q' : Place) : Prop := ¬((p' = p ∧ q' = q) ∨ (p' = q ∧ q' = p))

/-- What takes a column of an object type before the relation field `f` claims it: a scalar or enum
field of that very name, or a relation field declared before `f` that owns the column. -/
inductive TakesColumn (d : Document) (t : ObjectType) (f : Field) : String → ColumnHolder → Prop
  | field {g : Field} : g ∈ t.fields → g.isValue = true → TakesColumn d t f g.name (.field g.name)
  | reference {g : Field} : (t, g) ∈ d.relationFields → [g, f] <+ t.fields →
      d.OwnsReference (t, g) → TakesColumn d t f (referenceColumn g.name) (.reference g.name)

/-- The document exhibits the fault that an error of the resolution names. -/
inductive Exhibits (d : Document) : ModelError → Prop
  /-- The hint is on exactly so many relation fields, and they are not two. -/
  | relationNameUses {name : String} {uses : Nat} :
      d.relationFields.countP (fun p => p.2.hint = some name) = uses → 0 < uses → uses ≠ 2 →
      Exhibits d (.relationNameUses name uses)
  /-- The relation field has no candidate on its target type. -/
  | missingRelationField {p : Place} :
      p ∈ d.relationFields → (∀ q, ¬ d.IsCandidate p q) →
      Exhibits d (.missingRelationField p.1.name p.2.typeName p.2.name)
  /-- The candidates of the relation field are exactly those listed, in declaration order, and they
  are several. -/
  | ambiguousRelation {p : Place} {qs : List Place} :
      p ∈ d.relationFields → qs <+ d.relationFields → (∀ q, q ∈ qs ↔ d.IsCandidate p q) →
      2 ≤ qs.length →
      Exhibits d (.ambiguousRelation p.1.name p.2.typeName p.2.name (qs.map (·.2.name)))
  /-- Two different pairs bear the same name. -/
  | relationNameCollision {p q p' q' : Place} {name : String} :
      d.IsPair p q → d.IsPair p' q' → PairsDiffer p q p' q' →
      (p.pairing q).name = name → (p'.pairing q').name = name →
      Exhibits d (.relationNameCollision name
        (RelationSet.displayPair (p.pairing q)) (RelationSet.displayPair (p'.pairing q')))
  /-- Two different pairs share the field, and these are their names. -/
  | fieldAlreadyPaired {f p q p' q' : Place} :
      d.IsPair p q → d.IsPair p' q' → PairsDiffer p q p' q' → f ∈ [p, q] → f ∈ [p', q'] →
      Exhibits d (.fieldAlreadyPaired f.1.name f.2.name
        (p.pairing q).name (p'.pairing q').name)
  /-- The type has no identifier, and a field of it and another field are each other's only
  candidates. -/
  | missingPrimaryKey {p q : Place} :
      d.IsPair p q → d.IsPair q p → ¬ HasKey p.1 → Exhibits d (.missingPrimaryKey p.1.name)
  /-- The relation field owns a reference column that is taken. -/
  | referenceColumnCollision {t : ObjectType} {f : Field} {holder : ColumnHolder} :
      (t, f) ∈ d.relationFields → d.OwnsReference (t, f) →
      d.TakesColumn t f (referenceColumn f.name) holder →
      Exhibits d (.referenceColumnCollision t.name f.name (referenceColumn f.name) holder)

/-- Counterparts of each other form one relation under one name, whichever is met first. -/
theorem IsCounterpart.pairing_name_comm {d : Document} {p q : Place} (hpq : d.IsCounterpart p q)
    (hqp : d.IsCounterpart q p) : (q.pairing p).name = (p.pairing q).name := by
  rw [← hpq.pairing_swap hqp, Relation.name_swap]

/-- Pairs of different names are different. -/
theorem pairsDiffer_of_name_ne {d : Document} {p q p' q' : Place} (hpq : d.IsPair p q)
    (hpq' : d.IsPair p' q') (h : (p.pairing q).name ≠ (p'.pairing q').name) :
    PairsDiffer p q p' q' := by
  rintro (⟨rfl, rfl⟩ | ⟨rfl, rfl⟩)
  · exact h rfl
  · exact h (hpq'.pairing_name_comm hpq.toIsCounterpart)

end Document

namespace RelationSet

variable {d : Document} {set : RelationSet}

/-! ### Before the walk -/

/-- The check of the hints fails only with a hint that is not on two fields. -/
theorem checkHints_failsOnly : (checkHints d).FailsOnly d.Exhibits := by
  unfold checkHints
  cases hfind : (hints d).find? fun h => (hints d).count h ≠ 2 with
  | none => exact .of_eq_ok rfl
  | some h =>
      have hmem := List.mem_of_find?_eq_some hfind
      have hne : (hints d).count h ≠ 2 := by simpa using List.find?_some hfind
      exact .error (.relationNameUses (count_hints d h).symm (List.count_pos_iff.mpr hmem) hne)

/-! ### One step of the walk -/

section Step

variable {done rest : List Place} {p : Place}

/-- Fields of one type in declaration order are relation fields of the document in canonical
order. -/
theorem map_sublist_relationFields {t : ObjectType} (ht : t ∈ d.objectTypes) {fields : List Field}
    (h : fields <+ t.relationFields) : fields.map (t, ·) <+ d.relationFields :=
  (h.map (t, ·)).trans (List.sublist_flatten_of_mem (List.mem_map_of_mem ht))

/-- The candidates that the search lists, as places of the document. -/
theorem mem_map_candidates_iff (hd : d.Valid) (hp : p ∈ d.relationFields) {target : ObjectType}
    (htarget : target ∈ d.objectTypes) (hname : target.name = p.2.typeName) {q : Place} :
    q ∈ (candidates p.1 p.2 target).map (target, ·) ↔ d.IsCandidate p q := by
  rw [List.mem_map]
  constructor
  · rintro ⟨c, hc, rfl⟩
    exact (mem_candidates_iff hd hp htarget hname).mp hc
  · intro hq
    have htype : q.1 = target := List.eq_of_map_nodup hd.objectNames_nodup
      (Document.mem_relationFields.mp hq.mem).1 htarget (hq.onTarget.trans hname.symm)
    subst htype
    exact ⟨q.2, (mem_candidates_iff hd hp htarget hname).mpr hq, rfl⟩

/-- A field fails to form a relation only when it has no candidate or several. -/
theorem pairOf_failsOnly (hd : d.Valid) (hp : p ∈ d.relationFields) :
    (pairOf d p.1 p.2).FailsOnly d.Exhibits := by
  obtain ⟨target, htarget, hname⟩ := hd.exists_target hp
  have hlookup := hd.objectType?_eq_some_iff.mpr ⟨htarget, hname⟩
  have hmem := fun {q : Place} => mem_map_candidates_iff hd hp htarget hname (q := q)
  have hsub : (candidates p.1 p.2 target).map (target, ·) <+ d.relationFields :=
    map_sublist_relationFields htarget List.filter_sublist
  simp only [pairOf, hlookup]
  refine .bind ?_ fun c _ => .pure _
  unfold counterpart
  split
  case h_1 c hc => exact .of_eq_ok rfl
  case h_2 hc =>
      rw [hname]
      exact .error (.missingRelationField hp fun q hq => by simpa [hc] using hmem.mpr hq)
  case h_3 cs hone hzero =>
      have hlength : 2 ≤ ((candidates p.1 p.2 target).map (target, ·)).length := by
        cases hcs : candidates p.1 p.2 target with
        | nil => exact absurd hcs hzero
        | cons c cs =>
            cases cs with
            | nil => exact absurd hcs (hone c)
            | cons c' cs => simp
      have hfault := Document.Exhibits.ambiguousRelation hp hsub (fun q => hmem) hlength
      rw [hname]
      exact .error (by simpa [List.map_map, Function.comp_def] using hfault)

/-- **All that an insertion can fail with**: a relation of that name has another pair, or the name
is new and an end is on a relation of the set. -/
theorem of_insert_eq_error {r : Relation} {e : ModelError} (h : set.insert r = .error e) :
    (∃ s ∈ set.relations, s.name = r.name ∧ s.samePair r = false ∧
      e = .relationNameCollision r.name (displayPair s) (displayPair r)) ∨
    (∃ s ∈ set.relations, s.name ≠ r.name ∧ ∃ side side',
      (s.onSide side').isField (r.onSide side).objectType (r.onSide side).field = true ∧
      e = .fieldAlreadyPaired (r.onSide side).objectType (r.onSide side).field s.name r.name) := by
  unfold insert at h
  cases hget : set.get? r.name with
  | some s =>
      simp only [hget] at h
      split at h
      case isTrue => cases h
      case isFalse hsame =>
        have hname : s.name = r.name := by simpa using List.find?_some hget
        exact .inl ⟨s, List.mem_of_find?_eq_some hget, hname, by simpa using hsame,
          (Except.error.inj h).symm⟩
  | none =>
      simp only [hget] at h
      split at h
      case h_1 hfind =>
        obtain ⟨side, -, htaken⟩ := List.exists_of_findSome?_eq_some hfind
        obtain ⟨⟨s, side'⟩, hfound, heq⟩ := Option.map_eq_some_iff.mp htaken
        obtain ⟨rfl, rfl⟩ := Prod.mk.inj heq
        obtain ⟨hs, hfield⟩ := of_forField?_eq_some hfound
        exact .inr ⟨s, hs, get?_eq_none_iff.mp hget s hs, side, side', hfield,
          (Except.error.inj h).symm⟩
      case h_2 => cases h

/-- The end on a side of the relation of a pair is one of the two fields. -/
theorem exists_place_of_pairing {q : Place} (hpq : d.IsPair p q) (side : Side) :
    ∃ f : Place, f ∈ [p, q] ∧ f ∈ d.relationFields ∧ (p.pairing q).onSide side = f.toEnd := by
  cases side with
  | a => exact ⟨p, by simp, hpq.source, rfl⟩
  | b => exact ⟨q, by simp, hpq.mem, rfl⟩

/-- **A step fails** only with what the document exhibits. -/
theorem Collected.step_failsOnly (hd : d.Valid) (h : Collected d done set)
    (hl : d.relationFields = done ++ p :: rest) :
    (RelationSet.step d set p).FailsOnly d.Exhibits := by
  have hp : p ∈ d.relationFields := by simp [hl]
  refine (pairOf_failsOnly hd hp).bind fun r hr e he => ?_
  obtain ⟨q, hq, rfl⟩ := (pairOf_eq_ok_iff hd hp).mp hr
  have hpq : d.IsPair p q := ⟨hq, hp⟩
  rcases of_insert_eq_error he with ⟨s, hs, hname, hsame, rfl⟩ |
    ⟨s, hs, hname, side, side', hfield, rfl⟩
  all_goals
    obtain ⟨p', hp', q', hq', -, rfl⟩ := h.pairs s hs
    have hpq' : d.IsPair p' q' := ⟨hq', by simp [hl, hp']⟩
  · -- The same pair met from its other side would have the same ends.
    refine .relationNameCollision hpq' hpq ?_ hname rfl
    intro hpairs
    have hnot := mt Relation.samePair_iff.mpr (by simpa using hsame)
    rcases hpairs with ⟨rfl, rfl⟩ | ⟨rfl, rfl⟩
    · exact hnot (.inl ⟨rfl, rfl⟩)
    · exact hnot (.inr ⟨rfl, rfl⟩)
  · -- The end that is taken stands for one and the same field in both relations.
    obtain ⟨f, hf, hfd, hend⟩ := exists_place_of_pairing hpq side
    obtain ⟨f', hf', hfd', hend'⟩ := exists_place_of_pairing hpq' side'
    rw [hend', hend] at hfield
    rw [hend]
    obtain rfl := hd.eq_of_isField hfd' hfd hfield
    exact .fieldAlreadyPaired hpq' hpq (Document.pairsDiffer_of_name_ne hpq' hpq hname) hf' hf

end Step

/-! ### After the walk -/

/-- In a collected set every end of a relation is a field that its counterpart has as
counterpart. -/
theorem Collected.exists_pair (hd : d.Valid) (h : Collected d d.relationFields set) {r : Relation}
    (hr : r ∈ set.relations) (side : Side) :
    ∃ p q : Place, d.IsPair p q ∧ d.IsPair q p ∧ r.onSide side = p.toEnd := by
  obtain ⟨p, hp, hside⟩ := h.exists_place hr side
  obtain ⟨q, hpq, -⟩ := h.onSide_opposite hd hr hp hside
  exact ⟨p, q, ⟨hpq, hp⟩, ⟨h.counterpart_symm hd hp hpq, hpq.mem⟩, hside⟩

/-- The check of the primary keys fails only with an end whose type has no identifier. -/
theorem Collected.checkPrimaryKeys_failsOnly (hd : d.Valid)
    (h : Collected d d.relationFields set) :
    (set.checkPrimaryKeys d).FailsOnly d.Exhibits := by
  refine List.forM_failsOnly fun r hr => List.forM_failsOnly fun side _ => ?_
  obtain ⟨p, q, hpq, hqp, hside⟩ := h.exists_pair hd hr side
  have hkey : (d.primaryKeyOf? p.1.name).isSome = true ↔ Document.HasKey p.1 := by
    rw [Document.hasKey_iff, hd.primaryKeyOf?_eq (Document.mem_relationFields.mp hpq.source).1]
  rw [hside, Place.toEnd_objectType]
  split
  case isTrue => exact .of_eq_ok rfl
  case isFalse hmissing => exact .error (.missingPrimaryKey hpq hqp (mt hkey.mpr hmissing))

/-- The check of the columns of a type fails only with a column that is taken. The walk over its
relation fields keeps the holders in step: whatever is held takes its column before any field that
is still to come. -/
theorem Collected.checkColumns_failsOnly (hd : d.Valid) (h : Collected d d.relationFields set)
    {t : ObjectType} (ht : t ∈ d.objectTypes) {held : List (String × ColumnHolder)}
    {fields : List Field} (hfields : fields <+ t.relationFields)
    (hheld : ∀ entry ∈ held, ∀ f ∈ fields, d.TakesColumn t f entry.1 entry.2) :
    (set.checkColumns t.name held fields).FailsOnly d.Exhibits := by
  induction fields generalizing held with
  | nil => exact .of_eq_ok rfl
  | cons f rest ih =>
      have hf : (t, f) ∈ d.relationFields :=
        Document.mem_relationFields.mpr ⟨ht, hfields.subset List.mem_cons_self⟩
      have hrest : rest <+ t.relationFields := (List.sublist_cons_self f rest).trans hfields
      have hkeep : ∀ entry ∈ held, ∀ g ∈ rest, d.TakesColumn t g entry.1 entry.2 :=
        fun entry hentry g hg => hheld entry hentry g (List.mem_cons_of_mem f hg)
      rw [checkColumns]
      cases howned : set.ownedColumn? t.name f.name with
      | none => exact ih hrest hkeep
      | some column =>
          obtain ⟨howns, rfl⟩ := (h.ownedColumn?_eq_some_iff hd hf).mp howned
          dsimp only
          cases hlookup : held.lookup (referenceColumn f.name) with
          | some holder =>
              have htakes := hheld _ (List.mem_of_lookup_eq_some hlookup) f List.mem_cons_self
              exact .error (.referenceColumnCollision hf howns htakes)
          | none =>
              refine ih hrest fun entry hentry g hg => ?_
              rcases List.mem_cons.mp hentry with rfl | hentry
              · have horder : [f, g] <+ t.fields :=
                  (((List.singleton_sublist.mpr hg).cons_cons f).trans hfields).trans
                    List.filter_sublist
                exact .reference hf horder howns
              · exact hkeep entry hentry g hg

/-- The check of the columns of all types fails only with a column that is taken. -/
theorem Collected.checkReferenceColumns_failsOnly (hd : d.Valid)
    (h : Collected d d.relationFields set) :
    (set.checkReferenceColumns d).FailsOnly d.Exhibits := by
  refine List.forM_failsOnly fun t ht => h.checkColumns_failsOnly hd ht (List.Sublist.refl _) ?_
  intro entry hentry f _
  obtain ⟨g, hg, rfl⟩ := List.mem_map.mp hentry
  obtain ⟨hg, hkind⟩ := List.mem_filter.mp hg
  exact .field hg (Document.isValue_iff.mpr (by simpa [Field.isRelation] using hkind))

/-- **Every error of the resolution is exhibited by the document**: what it says of fields, types,
names and columns is so. -/
theorem exhibits_of_resolve_eq_error {objectTypes : List ObjectType} {enumTypes : List EnumType}
    (hd : Document.validated objectTypes enumTypes = .ok d) {e : ModelError}
    (h : resolve d = .error e) : d.Exhibits e := by
  have hvalid := Document.valid_of_validated hd
  have hwalk : (d.relationFields.foldlM (step d) ⟨[]⟩).Ends (Collected d d.relationFields)
      d.Exhibits :=
    List.foldlM_ends (Collected d) (fun _ _ _ _ hl hI =>
      ⟨fun _ hs => hI.step hvalid hl hs, hI.step_failsOnly hvalid hl⟩) Collected.nil
  have hresolve : (resolve d).FailsOnly d.Exhibits :=
    checkHints_failsOnly.bind fun _ _ => hwalk.2.bind fun set hset =>
      ((hwalk.1 set hset).checkPrimaryKeys_failsOnly hvalid).bind fun _ _ =>
        ((hwalk.1 set hset).checkReferenceColumns_failsOnly hvalid).bind fun _ _ => .pure set
  exact hresolve e h

/-! ### A blog -/

/-- A blog whose posts have an author. The hint on the drafts leaves the author to two fields. -/
def blog : List ObjectType :=
  [ .of "User"
      [ { name := "id", typeName := "ID", kind := .scalar .id, required := true },
        { name := "posts", typeName := "Post", kind := .relation, list := true },
        { name := "drafts", typeName := "Post", kind := .relation, list := true,
          options := { relationName := some "Drafts" } } ] {},
    .of "Post"
      [ { name := "id", typeName := "ID", kind := .scalar .id, required := true },
        { name := "author", typeName := "User", kind := .relation,
          options := { relationName := some "Drafts" } } ] {} ]

/-- The blog is refused because of the author of its posts, and the author is indeed on two
pairs. -/
theorem blog_exhibits :
    Document.validated blog [] = .ok ⟨blog, []⟩ ∧
      resolve ⟨blog, []⟩ = .error (.fieldAlreadyPaired "Post" "author" "PostAuthor" "Drafts") ∧
      Document.Exhibits ⟨blog, []⟩ (.fieldAlreadyPaired "Post" "author" "PostAuthor" "Drafts") := by
  have hd : Document.validated blog [] = .ok ⟨blog, []⟩ := by decide +kernel
  have h : resolve ⟨blog, []⟩ =
      .error (.fieldAlreadyPaired "Post" "author" "PostAuthor" "Drafts") := by decide +kernel
  exact ⟨hd, h, exhibits_of_resolve_eq_error hd h⟩

end RelationSet

/-! ### Faults and resolvability -/

namespace Document

variable {d : Document}

/-- In a document that can be resolved, pairs that share a field are one. -/
theorem Resolvable.not_pairsDiffer (hres : d.Resolvable) {f p q p' q' : Place} (hpq : d.IsPair p q)
    (hpq' : d.IsPair p' q') (hf : f ∈ [p, q]) (hf' : f ∈ [p', q']) : ¬ PairsDiffer p q p' q' := by
  have hqp := RelationSet.counterpart_symm_of_resolvable hres hpq.source hpq.toIsCounterpart
  have hqp' := RelationSet.counterpart_symm_of_resolvable hres hpq'.source hpq'.toIsCounterpart
  simp only [List.mem_cons, List.not_mem_nil, or_false] at hf hf'
  rw [PairsDiffer, not_not]
  rcases hf with rfl | rfl <;> rcases hf' with rfl | rfl
  · exact .inl ⟨rfl, hpq'.unique hpq.toIsCounterpart⟩
  · exact .inr ⟨hqp'.unique hpq.toIsCounterpart, rfl⟩
  · exact .inr ⟨rfl, hpq'.unique hqp⟩
  · exact .inl ⟨hqp'.unique hqp, rfl⟩

/-- A column that is taken before a field claims it belongs to another field. -/
theorem Valid.exists_holder (hd : d.Valid) {t : ObjectType} {f : Field}
    (hf : (t, f) ∈ d.relationFields) {column : String} {holder : ColumnHolder}
    (h : d.TakesColumn t f column holder) : ∃ g ∈ t.fields, g ≠ f ∧ d.HasColumn t g column := by
  obtain ⟨ht, hft⟩ := mem_relationFields.mp hf
  cases h with
  | field hg hvalue =>
      refine ⟨_, hg, ?_, .value hvalue⟩
      rintro rfl
      exact isValue_iff.mp hvalue (mem_relationFields_type.mp hft).2
  | reference hg horder howns =>
      refine ⟨_, horder.subset (by simp), ?_, .reference ?_ howns⟩
      · rintro rfl
        have hnodup := (List.Nodup.of_map _ (hd.fieldNames_nodup t ht)).sublist horder
        simp at hnodup
      · exact (mem_relationFields_type.mp (mem_relationFields.mp hg).2).2

/-- **A document that exhibits a fault** cannot be resolved. -/
theorem Exhibits.not_resolvable (hd : d.Valid) {e : ModelError} (h : d.Exhibits e) :
    ¬ d.Resolvable := by
  intro hres
  cases h with
  | relationNameUses hcount hpos hne =>
      rw [← hcount] at hpos
      obtain ⟨p, hp, hhint⟩ := List.countP_pos_iff.mp hpos
      exact hne (hcount ▸ hres.hints p hp _ (by simpa using hhint))
  | missingRelationField hp hnone =>
      obtain ⟨q, hq, -⟩ := hres.candidate _ hp
      exact hnone q hq
  | @ambiguousRelation p qs hp hsub hmem hlength =>
      obtain ⟨q, r, rest, rfl⟩ : ∃ q r rest, qs = q :: r :: rest := by
        match qs, hlength with
        | q :: r :: rest, _ => exact ⟨q, r, rest, rfl⟩
      have hne : q ≠ r := by
        have hnodup := hd.relationFields_nodup.sublist hsub
        simp_all
      obtain ⟨_, -, honly⟩ := hres.candidate p hp
      have hq := honly q ((hmem q).mp (by simp))
      have hr := honly r ((hmem r).mp (by simp))
      exact hne (hq.trans hr.symm)
  | relationNameCollision hpq hpq' hdiffer hname hname' =>
      exact hdiffer (hres.names _ _ hpq.source hpq'.source _ _ hpq.toIsCandidate
        hpq'.toIsCandidate (hname'.trans hname.symm))
  | fieldAlreadyPaired hpq hpq' hdiffer hf hf' =>
      exact hres.not_pairsDiffer hpq hpq' hf hf' hdiffer
  | missingPrimaryKey hpq hqp hkey =>
      exact hkey (hres.keys _ hpq.source _ hpq.toIsCandidate).1
  | referenceColumnCollision hf howns htakes =>
      obtain ⟨ht, hft⟩ := mem_relationFields.mp hf
      obtain ⟨hfield, hkind⟩ := mem_relationFields_type.mp hft
      obtain ⟨g, hg, hne, hcolumn⟩ := hd.exists_holder hf htakes
      exact hne (hres.columns _ ht g hg _ hfield _ hcolumn (.reference hkind howns))

end Document

end DataModel
