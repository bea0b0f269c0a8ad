import DataModel.Proofs.Relation.ReferenceColumns
import DataModel.Relation.Index

/-!
# Look-ups among the relations of a document

The relations of a document are looked up by name, through the index that resolution keeps beside
their list, and by field or type, through walks over the list that take the first or every relation
that fits. This module says that the index never drifts from the list and that the first relation
that fits is the only one.

## The index and the list

Resolution with an index goes through the same steps as resolution without. `Tracks` relates a
computation of the one kind with one of the other: both end with the same error, or both with the
same list, in the first case under an index that is `Coherent` with it.

## Main results

* `RelationSet.Indexed.tracks_insert`: an insertion keeps the index coherent, whether it adds a
  relation, meets one again or is refused.
* `RelationSet.Indexed.tracks_resolve`: **the index changes nothing** about which documents are
  resolved, with which relations and with which errors.
* `RelationSet.Indexed.lookups_agree`: **the look-ups of a resolved set agree with its list**.
-/

open scoped List

namespace DataModel

namespace RelationSet

namespace Indexed

variable {d : Document} {set : Indexed}

/-! ### Coherence -/

/-- The index agrees with the list: under every name stands the position of the first relation that
bears it, and nothing if none does. -/
def Coherent (set : Indexed) : Prop :=
  ∀ n, set.positions.lookup n = set.relations.findIdx? (·.name == n)

/-- Without relations nothing is found. -/
theorem coherent_empty : empty.Coherent := fun _ => rfl

/-- A name leads through a coherent index to the relation that a search through the list finds. -/
theorem Coherent.get?_eq (h : set.Coherent) (n : String) :
    set.get? n = set.toRelationSet.get? n := by
  rw [get?, h n]
  exact List.find?_eq_bind_findIdx?_getElem?.symm

/-- A relation under a new name can be put last. -/
theorem Coherent.push (h : set.Coherent) {r : Relation} (hname : set.get? r.name = none) :
    (set.push r).Coherent := by
  intro n
  rw [Indexed.push, List.lookup_cons, List.findIdx?_append, List.findIdx?_singleton, h n]
  by_cases hn : n = r.name
  · subst hn
    have hnone : set.relations.findIdx? (·.name == r.name) = none :=
      List.findIdx?_eq_none_iff.mpr fun s hs => by
        simpa using get?_eq_none_iff.mp ((h.get?_eq _).symm.trans hname) s hs
    simp [hnone]
  · have hother : (n == r.name) = false := beq_eq_false_iff_ne.mpr hn
    simp [hother, Ne.symm hn]

/-! ### Resolution with and without index -/

/-- A computation with index ends as one without: with the same error, or with the same list under a
coherent index. -/
inductive Tracks : Except ModelError Indexed → Except ModelError RelationSet → Prop
  | ok {set : Indexed} : set.Coherent → Tracks (.ok set) (.ok set.toRelationSet)
  | error (e : ModelError) : Tracks (.error e) (.error e)

/-- Computations go on alike when their next steps do. -/
theorem Tracks.bind {x : Except ModelError Indexed} {y : Except ModelError RelationSet}
    {f : Indexed → Except ModelError Indexed} {g : RelationSet → Except ModelError RelationSet}
    (h : Tracks x y) (hnext : ∀ set, set.Coherent → Tracks (f set) (g set.toRelationSet)) :
    Tracks (x >>= f) (y >>= g) := by
  cases h with
  | ok hset => exact hnext _ hset
  | error e => exact .error e

/-- Computations that begin with one and the same step end alike when they go on alike. -/
theorem Tracks.after {α : Type} (x : Except ModelError α) {f : α → Except ModelError Indexed}
    {g : α → Except ModelError RelationSet} (h : ∀ a, Tracks (f a) (g a)) :
    Tracks (x >>= f) (x >>= g) := by
  cases x with
  | ok a => exact h a
  | error e => exact .error e

/-- **An insertion keeps the index coherent** and does what it does without index. The index changes
only where a relation is added, and its name has then not been found through the index. -/
theorem tracks_insert (h : set.Coherent) (r : Relation) :
    Tracks (set.insert r) (set.toRelationSet.insert r) := by
  unfold insert RelationSet.insert
  rw [← h.get?_eq]
  cases hname : set.get? r.name with
  | some existing =>
      by_cases hsame : existing.samePair r = true
      · simpa [hsame] using .ok h
      · simpa [hsame] using .error _
  | none =>
      cases hends : Side.both.findSome? fun side =>
          (set.forField? (r.onSide side).objectType (r.onSide side).field).map (side, ·.1) with
      | some taken => exact .error _
      | none => exact .ok (h.push hname)

/-- A step keeps the index coherent. -/
theorem tracks_step (h : set.Coherent) (p : Place) :
    Tracks (step d set p) (RelationSet.step d set.toRelationSet p) :=
  Tracks.after _ fun r => tracks_insert h r

/-- A walk keeps the index coherent. -/
theorem tracks_walk (h : set.Coherent) (l : List Place) :
    Tracks (l.foldlM (step d) set) (l.foldlM (RelationSet.step d) set.toRelationSet) := by
  induction l generalizing set with
  | nil => exact .ok h
  | cons p l ih =>
      rw [List.foldlM_cons, List.foldlM_cons]
      exact (tracks_step h p).bind fun next hnext => ih hnext

/-- **Resolution with an index** ends as resolution without, and its index is coherent. -/
theorem tracks_resolve (d : Document) : Tracks (resolve d) (RelationSet.resolve d) :=
  Tracks.after _ fun _ => (tracks_walk coherent_empty _).bind fun _ hset =>
    Tracks.after _ fun _ => Tracks.after _ fun _ => .ok hset

/-- Where a document is resolved it is resolved with a coherent index. -/
theorem exists_resolve_coherent {plain : RelationSet} (h : RelationSet.resolve d = .ok plain) :
    ∃ set : Indexed, resolve d = .ok set ∧ set.toRelationSet = plain ∧ set.Coherent := by
  have htracks := tracks_resolve d
  rw [h] at htracks
  cases hset : resolve d with
  | ok set =>
      rw [hset] at htracks
      cases htracks with
      | ok hcoherent => exact ⟨set, rfl, rfl, hcoherent⟩
  | error e =>
      rw [hset] at htracks
      cases htracks

end Indexed

/-! ### Look-ups in the list -/

variable {d : Document} {set : RelationSet}

/-- Where names do not repeat, the relation that is found under a name is the one that bears it. -/
theorem Collected.get?_eq_some_iff {done : List Place} (h : Collected d done set) {n : String}
    {r : Relation} : set.get? n = some r ↔ r ∈ set.relations ∧ r.name = n :=
  List.find?_name_eq_some_iff h.names_nodup

/-- The relations of an object type are those with a side on it. -/
theorem mem_forObjectType_iff {t : String} {r : Relation} :
    r ∈ set.forObjectType t ↔ r ∈ set.relations ∧ ∃ side, (r.onSide side).objectType = t := by
  have hinvolves : r.involves t = true ↔ ∃ side, (r.onSide side).objectType = t := by
    constructor
    · intro h
      rcases Bool.or_eq_true_iff.mp h with ha | hb
      · exact ⟨.a, eq_of_beq ha⟩
      · exact ⟨.b, eq_of_beq hb⟩
    · rintro ⟨side, rfl⟩
      cases side <;> simp [Relation.involves, Relation.onSide]
  rw [forObjectType, List.mem_filter, hinvolves]

/-- A relation that is found for a field is one of those of the field's type. -/
theorem mem_forObjectType_of_forField? {t f : String} {r : Relation} {side : Side}
    (h : set.forField? t f = some (r, side)) : r ∈ set.forObjectType t := by
  obtain ⟨hr, hfield⟩ := of_forField?_eq_some h
  exact mem_forObjectType_iff.mpr ⟨hr, side, (RelationEnd.isField_iff.mp hfield).1⟩

/-- The look-ups of a set with index agree with its list of relations. -/
structure Indexed.AgreesWithList (set : Indexed) (d : Document) : Prop where
  names_nodup : (set.relations.map (·.name)).Nodup
  /-- Under a name stands the position of the relation that bears it; no other name is in the
  index, and no position lies beyond the list. -/
  lookup_iff : ∀ n i, set.positions.lookup n = some i ↔
    ∃ r, set.relations[i]? = some r ∧ r.name = n
  get?_iff : ∀ n r, set.get? n = some r ↔ r ∈ set.relations ∧ r.name = n
  /-- The index finds what a search through the list does. -/
  get?_eq : ∀ n, set.get? n = set.toRelationSet.get? n
  forField?_iff : ∀ t f r side, set.forField? t f = some (r, side) ↔
    r ∈ set.relations ∧ (r.onSide side).objectType = t ∧ (r.onSide side).field = f
  /-- No field is on two relations or on both sides of one. -/
  side_unique : ∀ r ∈ set.relations, ∀ s ∈ set.relations, ∀ side side',
    (r.onSide side).objectType = (s.onSide side').objectType →
      (r.onSide side).field = (s.onSide side').field → r = s ∧ side = side'
  forObjectType_sublist : ∀ t, set.forObjectType t <+ set.relations
  mem_forObjectType : ∀ t r, r ∈ set.forObjectType t ↔
    r ∈ set.relations ∧ ∃ side, (r.onSide side).objectType = t
  /-- The relation of every relation field is found, and among those of its type. -/
  relationFields : ∀ t ∈ d.objectTypes, ∀ f ∈ t.relationFields, ∃ r side,
    set.forField? t.name f.name = some (r, side) ∧ r ∈ set.forObjectType t.name

/-- **The look-ups of a resolved set agree with its list of relations.** A document that is resolved is
resolved with an index beside the list. Names do not repeat, a name leads to the relation that bears
it, a field to the one relation and the one side that it is on, and an object type to the relations
with a side on it, in the order of the list. Every relation field is found, and its relation is among
those of its type. -/
theorem Indexed.lookups_agree {objectTypes : List ObjectType} {enumTypes : List EnumType}
    (hd : Document.validated objectTypes enumTypes = .ok d) (h : RelationSet.resolve d = .ok set) :
    ∃ indexed : Indexed, Indexed.resolve d = .ok indexed ∧ indexed.toRelationSet = set ∧
      indexed.AgreesWithList d := by
  have hvalid := Document.valid_of_validated hd
  have hset := collected_of_resolve hvalid h
  obtain ⟨indexed, hindexed, rfl, hcoherent⟩ := exists_resolve_coherent h
  have hfield : ∀ t f r side, indexed.forField? t f = some (r, side) ↔
      r ∈ indexed.relations ∧ (r.onSide side).objectType = t ∧ (r.onSide side).field = f :=
    fun t f r side => by rw [hset.forField?_eq_some_iff hvalid, RelationEnd.isField_iff]
  refine ⟨indexed, hindexed, rfl, hset.names_nodup, ?positions, ?names, hcoherent.get?_eq, hfield,
    ?unique, fun t => List.filter_sublist, fun t r => mem_forObjectType_iff, ?fields⟩
  case positions =>
    intro n i
    rw [hcoherent n, List.findIdx?_name_eq_some_iff hset.names_nodup]
  case names =>
    intro n r
    rw [hcoherent.get?_eq, hset.get?_eq_some_iff]
  case unique =>
    intro r hr s hs side side' htype hname
    have hfound := (hfield _ _ r side).mpr ⟨hr, htype, hname⟩
    have hfound' := (hfield _ _ s side').mpr ⟨hs, rfl, rfl⟩
    exact Prod.mk.inj (Option.some.inj (hfound.symm.trans hfound'))
  case fields =>
    intro t ht f hf
    obtain ⟨r, side, hfound⟩ :=
      hset.exists_forField? hvalid (Document.mem_relationFields.mpr ⟨ht, hf⟩)
    exact ⟨r, side, hfound, mem_forObjectType_of_forField? hfound⟩

/-- The look-ups of the library agree with its list; the hint of a relation leads to it. -/
theorem Indexed.library_lookups_agree :
    Document.validated Document.library.objectTypes [] = .ok Document.library ∧
      RelationSet.resolve .library = .ok library ∧
      ∃ indexed : Indexed, Indexed.resolve .library = .ok indexed ∧
        indexed.toRelationSet = library ∧ indexed.AgreesWithList .library := by
  have hd : Document.validated Document.library.objectTypes [] = .ok .library := by decide +kernel
  have h : RelationSet.resolve .library = .ok library := by decide +kernel
  exact ⟨hd, h, lookups_agree hd h⟩

end RelationSet

end DataModel
