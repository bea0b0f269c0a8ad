import DataModel.Relation.Basic
import Mathlib.Data.String.Basic

/-!
# Relations seen from the other side

Which of two fields is side A is settled by the order in which they are met. The name of a relation
does not depend on it, so that the same pair met from its other side is recognised by name.

## Main results

* `sortedAppend_comm`: texts joined in order do not remember which came first.
* `Relation.name_swap`: a relation keeps its name when its sides are exchanged.
* `Relation.kindFor_swap`, `Relation.ownsReference_swap`, `Relation.junctionColumn_swap`: what a
  relation says of a field does not depend on the side that the field is on, except which of two
  single values on one type owns the reference column.
* `Relation.samePair_iff`: what it means for two relations to have the same two ends.
* `Relation.exchanged_mirrors`: **a relation is symmetric in its sides**, all of this together.
-/

namespace DataModel

/-- Every side is the opposite of its opposite. -/
@[simp] theorem Side.opposite_opposite (side : Side) : side.opposite.opposite = side := by
  cases side <;> rfl

/-- There are no other sides. -/
@[simp] theorem Side.mem_both (side : Side) : side ∈ Side.both := by
  cases side <;> simp [Side.both]

/-- A statement about both sides is one about each. -/
theorem Side.forall_iff {P : Side → Prop} : (∀ side, P side) ↔ P .a ∧ P .b :=
  ⟨fun h => ⟨h .a, h .b⟩, fun ⟨ha, hb⟩ side => by cases side <;> assumption⟩

/-- An end is the field with these names when it bears both. -/
theorem RelationEnd.isField_iff {e : RelationEnd} {t f : String} :
    e.isField t f = true ↔ e.objectType = t ∧ e.field = f := by
  simp [RelationEnd.isField]

/-- **Texts joined in order** do not remember which came first. -/
theorem sortedAppend_comm (x y : String) : sortedAppend x y = sortedAppend y x := by
  unfold sortedAppend
  rcases lt_trichotomy x y with h | rfl | h
  · rw [if_neg (lt_asymm h), if_pos h]
  · rfl
  · rw [if_pos h, if_neg (lt_asymm h)]

namespace Relation

/-- The two ends of a relation, side A first. -/
def ends (r : Relation) : List RelationEnd := [r.a, r.b]

/-- The relation with its sides exchanged. -/
def swap (r : Relation) : Relation := ⟨r.b, r.a, r.hint⟩

/-- An end of a relation stands on one of its sides. -/
theorem mem_ends_iff {r : Relation} {e : RelationEnd} :
    e ∈ r.ends ↔ ∃ side, r.onSide side = e := by
  simp only [ends, List.mem_cons, List.not_mem_nil, or_false]
  constructor
  · rintro (rfl | rfl)
    · exact ⟨.a, rfl⟩
    · exact ⟨.b, rfl⟩
  · rintro ⟨side, rfl⟩
    cases side with
    | a => exact Or.inl rfl
    | b => exact Or.inr rfl

/-- The end on a side is an end. -/
theorem onSide_mem_ends (r : Relation) (side : Side) : r.onSide side ∈ r.ends :=
  mem_ends_iff.mpr ⟨side, rfl⟩

/-- The end on a side of the exchanged relation. -/
@[simp] theorem onSide_swap (r : Relation) (side : Side) :
    r.swap.onSide side = r.onSide side.opposite := by
  cases side <;> rfl

/-- The ends stay when the sides are exchanged. -/
theorem mem_ends_swap {r : Relation} {e : RelationEnd} : e ∈ r.swap.ends ↔ e ∈ r.ends := by
  simp [ends, swap, or_comm]

/-- Whether both ends stand on one type does not depend on the side. -/
@[simp] theorem isSelfReferencing_swap (r : Relation) :
    r.swap.isSelfReferencing = r.isSelfReferencing :=
  Bool.beq_comm

/-- **The cardinality as seen from a field** is the same on either side. -/
@[simp] theorem kindFor_swap (r : Relation) (side : Side) :
    r.swap.kindFor side = r.kindFor side.opposite := by
  obtain ⟨a, b, hint⟩ := r
  cases ha : a.list <;> cases hb : b.list <;> cases side <;>
    simp [kindFor, cardinality, swap, Side.opposite, ha, hb]

/-- **The owner of a reference column** is the same on either side, unless two single values of one
type face each other. -/
theorem ownsReference_swap {r : Relation}
    (h : r.isSelfReferencing = true → r.cardinality ≠ .oneToOne) (side : Side) :
    r.swap.ownsReference side = r.ownsReference side.opposite := by
  have hself := isSelfReferencing_swap r
  obtain ⟨a, b, hint⟩ := r
  cases ha : a.list <;> cases hb : b.list <;> cases side <;>
    simp_all [ownsReference, cardinality, swap, Side.opposite]

/-- Of two single values of one type, the one on side A owns the reference column. -/
example :
    ownsReference ⟨⟨"Author", "mentor", false, false⟩, ⟨"Author", "student", false, false⟩, none⟩
        .a = true ∧
      ownsReference ⟨⟨"Author", "student", false, false⟩, ⟨"Author", "mentor", false, false⟩, none⟩
        .b = false := by
  decide

/-- The reference column for a field is the same on either side. -/
@[simp] theorem referenceColumn_swap (r : Relation) (side : Side) :
    r.swap.referenceColumn side = r.referenceColumn side.opposite := by
  simp [referenceColumn]

/-- **The junction column** for a field is the same on either side. -/
@[simp] theorem junctionColumn_swap (r : Relation) (side : Side) :
    r.swap.junctionColumn side = r.junctionColumn side.opposite := by
  simp [junctionColumn]

/-- **The computed name** is the same from both sides. -/
theorem computedName_swap (r : Relation) : r.swap.computedName = r.computedName := by
  obtain ⟨a, b, hint⟩ := r
  cases ha : a.list <;> cases hb : b.list <;>
    simp only [computedName, cardinality, swap, onSide, ha, hb]
  · exact sortedAppend_comm _ _
  · exact sortedAppend_comm _ _

/-- A relation keeps its name when its sides are exchanged. -/
theorem name_swap (r : Relation) : r.swap.name = r.name := by
  unfold name
  rw [computedName_swap]
  rfl

/-- Two relations have the same pair when their ends agree, in this order or the other. -/
theorem samePair_iff {r s : Relation} :
    r.samePair s = true ↔ (r.a = s.a ∧ r.b = s.b) ∨ (r.a = s.b ∧ r.b = s.a) := by
  simp [samePair]

/-- Relations with the same pair have the same ends. -/
theorem mem_ends_of_samePair {r s : Relation} (h : r.samePair s = true) {e : RelationEnd} :
    e ∈ r.ends ↔ e ∈ s.ends := by
  rcases samePair_iff.mp h with ⟨ha, hb⟩ | ⟨ha, hb⟩
  · simp [ends, ha, hb]
  · simp [ends, ha, hb, or_comm]

/-! ### Exchanged sides -/

/-- Two single values of one object type face each other. -/
def FacesItself (r : Relation) : Prop :=
  r.a.list = false ∧ r.b.list = false ∧ r.a.objectType = r.b.objectType

/-- A one-to-one relation of a type with itself has two single values of that type. -/
theorem facesItself_of_cardinality {r : Relation} (hself : r.isSelfReferencing = true)
    (hcard : r.cardinality = .oneToOne) : r.FacesItself := by
  refine ⟨?_, ?_, eq_of_beq hself⟩ <;>
    cases ha : r.a.list <;> cases hb : r.b.list <;> simp [cardinality, ha, hb] at hcard ⊢

/-- Two single values of one type face each other on whichever sides. -/
theorem facesItself_swap {r : Relation} : r.swap.FacesItself ↔ r.FacesItself := by
  simp only [FacesItself, swap, and_left_comm, eq_comm]

/-- Of two single values of one type, the one on side A owns the reference column. -/
theorem ownsReference_iff_of_facesItself {r : Relation} (h : r.FacesItself) {side : Side} :
    r.ownsReference side = true ↔ side = .a := by
  obtain ⟨ha, hb, htype⟩ := h
  simp [ownsReference, cardinality, isSelfReferencing, ha, hb, htype]

/-- Two relations say the same of the same two ends, which stand on opposite sides of the two. Only
where two single values of one type face each other does the side decide which of them owns the
reference column: in either relation the one on side A. -/
structure Mirrors (r s : Relation) : Prop where
  name : r.name = s.name
  hasExplicitName : r.hasExplicitName = s.hasExplicitName
  samePair : r.samePair s = true
  onSide : ∀ side, r.onSide side = s.onSide side.opposite
  kindFor : ∀ side, r.kindFor side = s.kindFor side.opposite
  referenceColumn : ∀ side, r.referenceColumn side = s.referenceColumn side.opposite
  junctionColumn : ∀ side, r.junctionColumn side = s.junctionColumn side.opposite
  ownsReference : ¬ r.FacesItself → ∀ side, r.ownsReference side = s.ownsReference side.opposite
  ownsReference_iff : r.FacesItself → ∀ side,
    (r.ownsReference side = true ↔ side = .a) ∧ (s.ownsReference side = true ↔ side = .a)

/-- **A relation is symmetric in its sides**, whatever its two ends are called, hold and require and
whether a hint names it. -/
theorem exchanged_mirrors (a b : RelationEnd) (hint : Option String) :
    Mirrors ⟨a, b, hint⟩ ⟨b, a, hint⟩ := by
  have hswap : (⟨b, a, hint⟩ : Relation) = swap ⟨a, b, hint⟩ := rfl
  generalize (⟨a, b, hint⟩ : Relation) = r at hswap ⊢
  rw [hswap]
  refine ⟨(name_swap r).symm, rfl, samePair_iff.mpr (.inr ⟨rfl, rfl⟩), ?ends, ?kind, ?reference,
    ?junction, ?owner, ?loop⟩
  case ends => simp
  case kind => simp
  case reference => simp
  case junction => simp
  case owner =>
    intro hloop side
    have hcard : r.isSelfReferencing = true → r.cardinality ≠ .oneToOne :=
      fun hself hone => hloop (facesItself_of_cardinality hself hone)
    rw [ownsReference_swap hcard, side.opposite_opposite]
  case loop =>
    intro hloop side
    exact ⟨ownsReference_iff_of_facesItself hloop,
      ownsReference_iff_of_facesItself (facesItself_swap.mpr hloop)⟩

end Relation

end DataModel
