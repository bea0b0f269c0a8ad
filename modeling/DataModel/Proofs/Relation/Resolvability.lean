import DataModel.Proofs.Relation.ReferenceColumns

/-!
# Which documents can be resolved

Resolution is a scan that stops at the first fault, and what counts as a fault at one field depends
on the fields before it. Whether it succeeds can still be said without any order
(`Document.Resolvable`): hints come in twos, every field has one candidate, candidates are mutual,
different pairs have different names, both ends have primary keys, and columns do not clash.

One direction reads the conditions off the set that comes out. In the other, the conditions keep
every step from failing: a name that is taken belongs to the same pair, and so does an end.

## Main results

* `RelationSet.Collected.step_succeeds`: no step fails where the conditions hold.
* `RelationSet.exists_resolve_iff`: **a document can be resolved exactly when it meets the
  conditions.**
-/

open scoped List

namespace DataModel

namespace Document

/-- The object type has an identifier among its fields. -/
def HasKey (t : ObjectType) : Prop := ∃ f ∈ t.fields, f.isId = true

/-- The conditions under which the relations of a document can be resolved. -/
structure Resolvable (d : Document) : Prop where
  /-- Every hint on a relation field is on exactly two of them. -/
  hints : ∀ p : Place, p ∈ d.relationFields → ∀ h, p.2.hint = some h →
    d.relationFields.countP (fun q => q.2.hint = some h) = 2
  /-- Every relation field has exactly one candidate. -/
  candidate : ∀ p : Place, p ∈ d.relationFields → ∃! q, d.IsCandidate p q
  /-- The candidate of the candidate of a field is the field. -/
  mutually : ∀ p : Place, p ∈ d.relationFields → ∀ q r,
    d.IsCandidate p q → d.IsCandidate q r → r = p
  /-- Different pairs of a field and its candidate have different names. -/
  names : ∀ p p' : Place, p ∈ d.relationFields → p' ∈ d.relationFields → ∀ q q',
    d.IsCandidate p q → d.IsCandidate p' q' → (p'.pairing q').name = (p.pairing q).name →
      (p' = p ∧ q' = q) ∨ (p' = q ∧ q' = p)
  /-- The types of a field and its candidate have identifiers. -/
  keys : ∀ p : Place, p ∈ d.relationFields → ∀ q, d.IsCandidate p q → HasKey p.1 ∧ HasKey q.1
  /-- The names of the scalar and enum fields of a type and its reference columns are distinct. -/
  columns : ∀ t ∈ d.objectTypes, d.ColumnsDistinct t

/-- A type has an identifier exactly when it has a primary key. -/
theorem hasKey_iff {t : ObjectType} : HasKey t ↔ t.primaryKey?.isSome = true := by
  simp [HasKey, ObjectType.primaryKey?]

/-- The primary key of a declared type is looked up by the name of the type. -/
theorem Valid.primaryKeyOf?_eq {d : Document} (hd : d.Valid) {t : ObjectType}
    (ht : t ∈ d.objectTypes) : d.primaryKeyOf? t.name = t.primaryKey? := by
  rw [primaryKeyOf?, hd.objectType?_eq_some_iff.mpr ⟨ht, rfl⟩]
  rfl

end Document

namespace RelationSet

variable {d : Document} {set : RelationSet}

/-! ### The checks before and after the walk -/

/-- A hint is listed once for each relation field that it is on. -/
theorem count_hints (d : Document) (h : String) :
    (hints d).count h = d.relationFields.countP fun q => q.2.hint = some h := by
  simp [hints, List.count_filterMap, beq_eq_decide]

/-- The hints are in order when each is on exactly two relation fields. -/
theorem checkHints_eq_ok_iff :
    checkHints d = .ok () ↔ ∀ p : Place, p ∈ d.relationFields → ∀ h, p.2.hint = some h →
      d.relationFields.countP (fun q => q.2.hint = some h) = 2 := by
  have hnone : checkHints d = .ok () ↔ ∀ h ∈ hints d, (hints d).count h = 2 := by
    unfold checkHints
    cases hfind : (hints d).find? fun h => (hints d).count h ≠ 2 with
    | some h =>
        have hmem := List.mem_of_find?_eq_some hfind
        have hbad := List.find?_some hfind
        simp only [reduceCtorEq, false_iff, not_forall]
        exact ⟨h, hmem, by simpa using hbad⟩
    | none => simpa using hfind
  rw [hnone]
  constructor
  · intro h p hp hint hhint
    rw [← count_hints]
    exact h hint (List.mem_filterMap.mpr ⟨p, hp, hhint⟩)
  · intro h hint hmem
    obtain ⟨p, hp, hhint⟩ := List.mem_filterMap.mp hmem
    rw [count_hints]
    exact h p hp hint hhint

/-- The types of a set have primary keys when those on both sides of every relation do. -/
theorem checkPrimaryKeys_eq_ok_iff :
    set.checkPrimaryKeys d = .ok () ↔ ∀ r ∈ set.relations, ∀ side,
      (d.primaryKeyOf? (r.onSide side).objectType).isSome = true := by
  rw [checkPrimaryKeys, List.forM_eq_ok_iff]
  refine forall₂_congr fun r _ => ?_
  rw [List.forM_eq_ok_iff]
  simp [← Option.isSome_iff_ne_none]

/-- In a resolved document the types of both ends of a relation have primary keys exactly when those
of every field and its counterpart do. -/
theorem Collected.checkPrimaryKeys_eq_ok_iff (hd : d.Valid)
    (h : Collected d d.relationFields set) :
    set.checkPrimaryKeys d = .ok () ↔
      ∀ p : Place, p ∈ d.relationFields → Document.HasKey p.1 := by
  have hkey : ∀ p : Place, p ∈ d.relationFields →
      (Document.HasKey p.1 ↔ (d.primaryKeyOf? p.toEnd.objectType).isSome = true) := fun p hp => by
    rw [Document.hasKey_iff, ← hd.primaryKeyOf?_eq (Document.mem_relationFields.mp hp).1]
    rfl
  rw [RelationSet.checkPrimaryKeys_eq_ok_iff]
  constructor
  · intro hkeys p hp
    obtain ⟨r, hr, hend⟩ := h.exists_mem_ends hp
    obtain ⟨side, hside⟩ := Relation.mem_ends_iff.mp hend
    exact (hkey p hp).mpr (hside ▸ hkeys r hr side)
  · intro hkeys r hr side
    obtain ⟨p, hp, hside⟩ := h.exists_place hr side
    rw [hside]
    exact (hkey p hp).mp (hkeys p hp)

/-! ### From a resolved set to the conditions -/

/-- The relation of a field and its counterpart bears the same name from both sides. -/
theorem Collected.exists_named (h : Collected d d.relationFields set) {p q : Place}
    (hp : p ∈ d.relationFields) (hpq : d.IsCounterpart p q) :
    ∃ r ∈ set.relations, r.samePair (p.pairing q) = true ∧ r.name = (p.pairing q).name := by
  obtain ⟨q', hq', hr⟩ := h.covers p hp
  obtain rfl := hq'.unique hpq
  exact hr

/-- A pair is determined by its name in a resolved document. -/
theorem Collected.pair_eq_of_name_eq (hd : d.Valid) (h : Collected d d.relationFields set)
    {p q p' q' : Place} (hp : p ∈ d.relationFields) (hp' : p' ∈ d.relationFields)
    (hpq : d.IsCounterpart p q) (hpq' : d.IsCounterpart p' q')
    (hname : (p'.pairing q').name = (p.pairing q).name) :
    (p' = p ∧ q' = q) ∨ (p' = q ∧ q' = p) := by
  obtain ⟨r, hr, hsame, hrname⟩ := h.exists_named hp hpq
  obtain ⟨s, hs, hsame', hsname⟩ := h.exists_named hp' hpq'
  obtain rfl : s = r := List.eq_of_map_nodup h.names_nodup hs hr
    (hsname.trans (hname.trans hrname.symm))
  have hend : p'.toEnd ∈ (p.pairing q).ends := by
    rw [← Relation.mem_ends_of_samePair hsame, Relation.mem_ends_of_samePair hsame']
    exact Place.mem_ends_pairing_iff.mpr (.inl rfl)
  rcases Place.mem_ends_pairing_iff.mp hend with heq | heq
  · obtain rfl := (hd.toEnd_inj hp' hp).mp heq
    exact Or.inl ⟨rfl, hpq'.unique hpq⟩
  · obtain rfl := (hd.toEnd_inj hp' hpq.mem).mp heq
    exact Or.inr ⟨rfl, hpq'.unique (h.counterpart_symm hd hp hpq)⟩

/-- A resolved document meets the conditions. -/
theorem resolvable_of_resolve (hd : d.Valid) (h : resolve d = .ok set) : d.Resolvable := by
  obtain ⟨hhints, -, hkeys, hcolumns⟩ := resolve_eq_ok_iff.mp h
  have hset := collected_of_resolve hd h
  have hcounterpart : ∀ p q : Place, p ∈ d.relationFields → d.IsCandidate p q →
      d.IsCounterpart p q := fun p q hp hpq => by
    obtain ⟨q', hq', -⟩ := hset.covers p hp
    exact hq'.only q hpq ▸ hq'
  have hkey := (hset.checkPrimaryKeys_eq_ok_iff hd).mp hkeys
  refine ⟨checkHints_eq_ok_iff.mp hhints, fun p hp => ?_, fun p hp q r hpq hqr => ?_,
    fun p p' hp hp' q q' hpq hpq' hname => ?_, fun p hp q hpq => ⟨hkey p hp, hkey q hpq.mem⟩,
    (hset.checkReferenceColumns_eq_ok_iff hd).mp hcolumns⟩
  · obtain ⟨q, hq, -⟩ := hset.covers p hp
    exact ⟨q, hq.toIsCandidate, hq.only⟩
  · have hsymm := hset.counterpart_symm hd hp (hcounterpart p q hp hpq)
    exact hsymm.only r hqr
  · exact hset.pair_eq_of_name_eq hd hp hp' (hcounterpart p q hp hpq)
      (hcounterpart p' q' hp' hpq') hname

/-! ### From the conditions to a resolved set -/

/-- Counterparts are mutual where candidates are. -/
theorem counterpart_symm_of_resolvable (h : d.Resolvable) {p q : Place} (hp : p ∈ d.relationFields)
    (hpq : d.IsCounterpart p q) : d.IsCounterpart q p := by
  obtain ⟨r, hqr, honly⟩ := h.candidate q hpq.mem
  obtain rfl := h.mutually p hp q r hpq.toIsCandidate hqr
  exact ⟨hqr, honly⟩

/-- A relation of the set that has an end of a new pair is that pair, under the same name. -/
theorem Collected.name_eq_of_mem_ends (hd : d.Valid) (hres : d.Resolvable) {done : List Place}
    (h : Collected d done set) (hdone : ∀ p ∈ done, p ∈ d.relationFields) {p q : Place}
    (hp : p ∈ d.relationFields) (hpq : d.IsCounterpart p q) {r : Relation}
    (hr : r ∈ set.relations) {e : RelationEnd} (he : e ∈ r.ends) (he' : e ∈ (p.pairing q).ends) :
    r.name = (p.pairing q).name := by
  obtain ⟨p', hp', q', hpq', -, rfl⟩ := h.pairs r hr
  have hp'd := hdone p' hp'
  have hqp := counterpart_symm_of_resolvable hres hp hpq
  have hqp' := counterpart_symm_of_resolvable hres hp'd hpq'
  have hswap : (q.pairing p).name = (p.pairing q).name := by
    rw [← hpq.pairing_swap hqp, Relation.name_swap]
  rw [Place.mem_ends_pairing_iff] at he he'
  rcases he with rfl | rfl <;> rcases he' with heq | heq
  · obtain rfl := (hd.toEnd_inj hp'd hp).mp heq
    rw [hpq'.unique hpq]
  · obtain rfl := (hd.toEnd_inj hp'd hpq.mem).mp heq
    rw [hpq'.unique hqp, hswap]
  · obtain rfl := (hd.toEnd_inj hpq'.mem hp).mp heq
    obtain rfl := hqp'.unique hpq
    rw [hswap]
  · obtain rfl := (hd.toEnd_inj hpq'.mem hpq.mem).mp heq
    rw [hqp'.unique hqp]

/-- **No step fails** where the conditions hold. -/
theorem Collected.step_succeeds (hd : d.Valid) (hres : d.Resolvable) {done rest : List Place}
    {p : Place} (h : Collected d done set) (hl : d.relationFields = done ++ p :: rest) :
    ∃ set', RelationSet.step d set p = .ok set' := by
  have hp : p ∈ d.relationFields := by simp [hl]
  have hdone : ∀ p' ∈ done, p' ∈ d.relationFields := fun p' hp' => by simp [hl, hp']
  obtain ⟨q, hpq⟩ := Document.isCounterpart_of_existsUnique (hres.candidate p hp)
  simp only [step_eq_ok_iff hd hp, insert_eq_ok_iff]
  cases hget : set.get? (p.pairing q).name with
  | some e =>
      -- The name is taken by a pair, which can only be this one.
      refine ⟨set, q, hpq, Or.inl ⟨e, hget, ?_, rfl⟩⟩
      obtain ⟨p', hp', q', hpq', -, rfl⟩ := h.pairs e (List.mem_of_find?_eq_some hget)
      have hname : (p'.pairing q').name = (p.pairing q).name := by
        simpa using List.find?_some hget
      rw [Relation.samePair_iff]
      rcases hres.names p p' hp (hdone p' hp') q q' hpq.toIsCandidate hpq'.toIsCandidate hname with
        ⟨rfl, rfl⟩ | ⟨rfl, rfl⟩
      · exact Or.inl ⟨rfl, rfl⟩
      · exact Or.inr ⟨rfl, rfl⟩
  | none =>
      -- An end that is taken would belong to the same pair, and so would have its name.
      refine ⟨_, q, hpq, Or.inr ⟨hget, fun side => forField?_eq_none_iff.mpr ?_, rfl⟩⟩
      intro r hr side'
      by_contra hfield
      have hne := get?_eq_none_iff.mp hget r hr
      obtain ⟨p', hp', hend'⟩ := h.exists_place hr side'
      obtain ⟨q', hq', hend⟩ : ∃ q' : Place, q' ∈ d.relationFields ∧
          (p.pairing q).onSide side = q'.toEnd := by
        cases side with
        | a => exact ⟨p, hp, rfl⟩
        | b => exact ⟨q, hpq.mem, rfl⟩
      rw [hend', hend, Bool.not_eq_false] at hfield
      obtain rfl := hd.eq_of_isField hp' hq' hfield
      exact hne (h.name_eq_of_mem_ends hd hres hdone hp hpq hr (hend' ▸ r.onSide_mem_ends side')
        (hend ▸ (p.pairing q).onSide_mem_ends side))

/-! ### What a resolved set comes with -/

/-- What the generators may rely on when they are given a document and its relations. -/
structure Resolves (set : RelationSet) (d : Document) : Prop where
  valid : d.Valid
  collected : Collected d d.relationFields set
  keys : ∀ p : Place, p ∈ d.relationFields → Document.HasKey p.1
  columns : ∀ t ∈ d.objectTypes, d.ColumnsDistinct t

/-- The relations of an accepted document resolve it. -/
theorem resolves_of_resolve {objectTypes : List ObjectType} {enumTypes : List EnumType}
    (hd : Document.validated objectTypes enumTypes = .ok d) (h : resolve d = .ok set) :
    set.Resolves d := by
  have hvalid := Document.valid_of_validated hd
  have hset := collected_of_resolve hvalid h
  obtain ⟨-, -, hkeys, hcolumns⟩ := resolve_eq_ok_iff.mp h
  exact ⟨hvalid, hset, (hset.checkPrimaryKeys_eq_ok_iff hvalid).mp hkeys,
    (hset.checkReferenceColumns_eq_ok_iff hvalid).mp hcolumns⟩

/-- Every relation field is found on a side of a relation, and its counterpart stands opposite. -/
theorem Resolves.exists_relation (h : set.Resolves d) {p : Place} (hp : p ∈ d.relationFields) :
    ∃ r side, ∃ q : Place, set.forField? p.1.name p.2.name = some (r, side) ∧
      r ∈ set.relations ∧ r.onSide side = p.toEnd ∧ r.onSide side.opposite = q.toEnd ∧
        d.IsCounterpart p q := by
  obtain ⟨r, side, hfind⟩ := h.collected.exists_forField? h.valid hp
  obtain ⟨hr, hside⟩ := (h.collected.forField?_place h.valid hp).mp hfind
  obtain ⟨q, hpq, hopp, -⟩ := h.collected.onSide_opposite h.valid hr hp hside
  exact ⟨r, side, q, hfind, hr, hside, hopp, hpq⟩

/-- The type of a relation field has a primary key, under which it is looked up by name. -/
theorem Resolves.exists_key (h : set.Resolves d) {p : Place} (hp : p ∈ d.relationFields) :
    ∃ key, p.1.primaryKey? = some key ∧ d.primaryKeyOf? p.1.name = some key := by
  obtain ⟨key, hkey⟩ := Option.isSome_iff_exists.mp (Document.hasKey_iff.mp (h.keys p hp))
  exact ⟨key, hkey, (h.valid.primaryKeyOf?_eq (Document.mem_relationFields.mp hp).1).trans hkey⟩

/-- A document that meets the conditions can be resolved. -/
theorem exists_resolve_of_resolvable (hd : d.Valid) (hres : d.Resolvable) :
    ∃ set, resolve d = .ok set := by
  obtain ⟨set, hwalk⟩ := List.foldlM_succeeds (Collected d)
    (fun _ _ _ _ hl hI => by
      obtain ⟨set', hs⟩ := hI.step_succeeds hd hres hl
      exact ⟨set', hs, hI.step hd hl hs⟩)
    Collected.nil
  have hset := collected_of_walk hd hwalk
  refine ⟨set, resolve_eq_ok_iff.mpr ⟨checkHints_eq_ok_iff.mpr hres.hints, hwalk, ?_, ?_⟩⟩
  · refine (hset.checkPrimaryKeys_eq_ok_iff hd).mpr fun p hp => ?_
    obtain ⟨q, hq, -⟩ := hres.candidate p hp
    exact (hres.keys p hp q hq).1
  · exact (hset.checkReferenceColumns_eq_ok_iff hd).mpr hres.columns

/-- **A document can be resolved exactly when it meets the conditions**, in which no order of the
types and fields occurs except for the column that two single values of one type share. -/
theorem exists_resolve_iff {objectTypes : List ObjectType} {enumTypes : List EnumType}
    (hd : Document.validated objectTypes enumTypes = .ok d) :
    (∃ set, resolve d = .ok set) ↔ d.Resolvable :=
  ⟨fun ⟨_, h⟩ => resolvable_of_resolve (Document.valid_of_validated hd) h,
    exists_resolve_of_resolvable (Document.valid_of_validated hd)⟩

/-- The library meets the conditions, since it can be resolved. -/
theorem library_resolvable :
    Document.validated Document.library.objectTypes [] = .ok .library ∧
      Document.library.Resolvable := by
  have hd : Document.validated Document.library.objectTypes [] = .ok .library := by decide +kernel
  exact ⟨hd, (exists_resolve_iff hd).mp ⟨library, by decide +kernel⟩⟩

end RelationSet

end DataModel
