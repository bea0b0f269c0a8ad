import DataModel.Api.Generation
import DataModel.Proofs.Document.Validity

/-!
# Keys of the input for lists

The input for lists has a field for every scalar or enum field of its type and every operator that
the field supports, named by the field with the suffix of the operator. Reading a key takes such a
name apart again, without looking at the input: a key that is the name of a field stands for
equality, and otherwise the longest suffix decides. Since field names are free to end like a suffix,
a key may be spelled in more than one way. This module says which spelling is read, and that nothing
is misread where the names of the input differ.

## Main results

* `filterKey?_eq_some_iff`: a key is read as the spelling that precedes all others.
* `filterKey?_inverts`: **the input and the reading of its keys agree**. The keys that can be read
  are the names of the input, and where these names differ each is read as what it was made from.
-/

namespace DataModel

namespace Api

/-! ### Spellings -/

namespace Operator

/-- Different operators have different suffixes. -/
theorem suffix_injective {o p : Operator} (h : o.suffix = p.suffix) : o = p := by
  cases o <;> cases p <;> first | rfl | exact absurd h (by decide)

/-- Every operator but equality has a suffix. -/
theorem mem_suffixed_iff {o : Operator} : o ∈ suffixed ↔ o ≠ .eq := by
  cases o <;> decide

/-- No suffix is followed by a longer one. -/
theorem suffixed_pairwise :
    suffixed.Pairwise fun o p => p.suffix.toList.length ≤ o.suffix.toList.length := by
  decide

/-- The operators that a field supports are those of a scalar or enum field. -/
theorem isValue_of_mem_ofField {f : Field} {o : Operator} (h : o ∈ ofField f) :
    f.isValue = true := by
  cases hkind : f.kind with
  | scalar s => simp [Field.isValue, Field.isScalar, Field.scalar?, hkind]
  | enum => simp [Field.isValue, Field.isEnum, hkind]
  | relation => simp [ofField, hkind] at h

/-- Every scalar or enum field supports equality. -/
theorem eq_mem_ofField {f : Field} (h : f.isValue = true) : .eq ∈ ofField f := by
  cases hkind : f.kind with
  | scalar s => simp [ofField, hkind, ofScalar]
  | enum => simp [ofField, hkind]
  | relation => simp [Field.isValue, Field.isScalar, Field.scalar?, Field.isEnum, hkind] at h

/-- The operator is preferred where a key can be read with either: equality to all others, and else
the one with the longer suffix. -/
def Precedes (o p : Operator) : Prop :=
  o = .eq ∨ p ≠ .eq ∧ p.suffix.toList.length < o.suffix.toList.length

end Operator

variable {t : ObjectType} {key : String} {f g : Field} {o p : Operator}

/-- The key is the name of a field followed by the suffix of an operator that the field supports. -/
structure Spells (t : ObjectType) (key : String) (f : Field) (o : Operator) : Prop where
  field : t.valueField? f.name = some f
  operator : o ∈ Operator.ofField f
  key_eq : key = f.name ++ o.suffix

/-- The field and operator spell the key, and are preferred to all others that do. -/
structure Denotes (t : ObjectType) (key : String) (f : Field) (o : Operator) : Prop where
  spells : Spells t key f o
  preferred : ∀ g p, Spells t key g p → p = o ∨ o.Precedes p

/-- A key is spelled with equality by the field of that name. -/
theorem spells_eq_iff : Spells t key f .eq ↔ t.valueField? key = some f := by
  constructor
  · rintro ⟨hfield, -, rfl⟩
    simpa [Operator.suffix] using hfield
  · intro h
    have hname := ObjectType.name_of_valueField? h
    exact ⟨hname ▸ h, Operator.eq_mem_ofField (Option.filter_eq_some_iff.mp h).2,
      by simp [Operator.suffix, hname]⟩

/-- A spelling is determined by its operator. -/
theorem Spells.field_unique (hf : Spells t key f o) (hg : Spells t key g o) : f = g := by
  have hname : f.name = g.name :=
    (String.append_left_inj _).mp (hf.key_eq.symm.trans hg.key_eq)
  exact Option.some.inj (hf.field.symm.trans (hname ▸ hg.field))

/-- Suffixes of one length that end the same key are equal. -/
theorem Spells.operator_eq (hf : Spells t key f o) (hg : Spells t key g p)
    (hlength : o.suffix.toList.length = p.suffix.toList.length) : o = p := by
  have happend : f.name.toList ++ o.suffix.toList = g.name.toList ++ p.suffix.toList := by
    rw [← String.toList_append, ← String.toList_append, ← hf.key_eq, ← hg.key_eq]
  exact Operator.suffix_injective (String.toList_inj.mp (List.append_inj_right' happend hlength))

/-- No key denotes two fields or operators. -/
theorem Denotes.unique (hf : Denotes t key f o) (hg : Denotes t key g p) : f = g ∧ o = p := by
  have ho : o = p := by
    rcases hf.preferred g p hg.spells with h | h | ⟨hp, hlt⟩
    · exact h.symm
    · rcases hg.preferred f o hf.spells with h' | h' | ⟨ho, -⟩
      · exact h'
      · exact h.trans h'.symm
      · exact absurd h ho
    · rcases hg.preferred f o hf.spells with h' | h' | ⟨-, hlt'⟩
      · exact h'
      · exact absurd h' hp
      · exact absurd hlt (Nat.lt_asymm hlt')
  subst ho
  exact ⟨hf.spells.field_unique hg.spells, rfl⟩

/-! ### Reading -/

/-- The reading of a key with a given operator. -/
def spelledWith? (t : ObjectType) (key : String) (o : Operator) : Option (Field × Operator) :=
  match (Text.withoutSuffix? o.suffix key).bind t.valueField? with
  | some f => if (Operator.ofField f).contains o then some (f, o) else none
  | none => none

/-- A key that is not the name of a field is read with the first operator that spells it. -/
theorem filterKey?_eq (t : ObjectType) (key : String) :
    filterKey? t key =
      match t.valueField? key with
      | some f => some (f, .eq)
      | none => Operator.suffixed.findSome? (spelledWith? t key) := rfl

/-- A key is read with an operator when it is spelled with it. -/
theorem spelledWith?_eq_some_iff :
    spelledWith? t key o = some (f, p) ↔ p = o ∧ Spells t key f o := by
  unfold spelledWith?
  constructor
  · intro h
    split at h
    case h_1 g hg =>
      obtain ⟨rest, hrest, hfield⟩ := Option.bind_eq_some_iff.mp hg
      have hname := ObjectType.name_of_valueField? hfield
      split at h
      case isTrue hsupported =>
        obtain ⟨rfl, rfl⟩ := Prod.mk.inj (Option.some.inj h)
        exact ⟨rfl, hname ▸ hfield, by simpa using hsupported,
          hname ▸ Text.withoutSuffix?_eq_some_iff.mp hrest⟩
      case isFalse => cases h
    case h_2 => cases h
  · rintro ⟨rfl, hfield, hsupported, hkey⟩
    have hfound : (Text.withoutSuffix? p.suffix key).bind t.valueField? = some f :=
      Option.bind_eq_some_iff.mpr ⟨f.name, Text.withoutSuffix?_eq_some_iff.mpr hkey, hfield⟩
    rw [hfound]
    exact if_pos (by simpa using hsupported)

/-- What is read off a key is what it denotes. -/
theorem denotes_of_filterKey? (h : filterKey? t key = some (f, o)) : Denotes t key f o := by
  rw [filterKey?_eq] at h
  cases hexact : t.valueField? key with
  | some g =>
      rw [hexact] at h
      obtain ⟨rfl, rfl⟩ := Prod.mk.inj (Option.some.inj h)
      exact ⟨spells_eq_iff.mpr hexact, fun _ _ _ => .inr (.inl rfl)⟩
  | none =>
      rw [hexact] at h
      obtain ⟨before, q, after, hl, hq, hbefore⟩ := List.findSome?_eq_some_iff.mp h
      obtain ⟨rfl, hspells⟩ := spelledWith?_eq_some_iff.mp hq
      refine ⟨hspells, fun g p hp => ?_⟩
      have hne : p ≠ .eq := by
        rintro rfl
        exact absurd (hexact.symm.trans (spells_eq_iff.mp hp)) nofun
      -- operators before the one that is found do not spell the key; those after it are no longer,
      -- and one of the same length is the same
      have hmem : p ∈ before ++ o :: after := hl ▸ Operator.mem_suffixed_iff.mpr hne
      rcases List.mem_append.mp hmem with hp' | hp'
      · exact absurd ((hbefore p hp').symm.trans (spelledWith?_eq_some_iff.mpr ⟨rfl, hp⟩)) nofun
      rcases List.mem_cons.mp hp' with rfl | hp'
      · exact .inl rfl
      · have hsorted := hl ▸ Operator.suffixed_pairwise
        have hle := (List.pairwise_cons.mp (List.pairwise_append.mp hsorted).2.1).1 p hp'
        rcases Nat.lt_or_eq_of_le hle with hlt | heq
        · exact .inr (.inr ⟨hne, hlt⟩)
        · exact .inl (hp.operator_eq hspells heq)

/-- A key that is spelled in some way is read. -/
theorem Spells.isSome_filterKey? (h : Spells t key f o) : (filterKey? t key).isSome = true := by
  rw [filterKey?_eq]
  cases hexact : t.valueField? key with
  | some g => rfl
  | none =>
      have hne : o ≠ .eq := by
        rintro rfl
        exact absurd (hexact.symm.trans (spells_eq_iff.mp h)) nofun
      refine List.findSome?_isSome_iff.mpr ⟨o, Operator.mem_suffixed_iff.mpr hne, ?_⟩
      rw [spelledWith?_eq_some_iff.mpr ⟨rfl, h⟩]
      rfl

/-- **A key is read** as the field and operator that it denotes. -/
theorem filterKey?_eq_some_iff : filterKey? t key = some (f, o) ↔ Denotes t key f o := by
  refine ⟨denotes_of_filterKey?, fun h => ?_⟩
  obtain ⟨⟨g, p⟩, hread⟩ := Option.isSome_iff_exists.mp h.spells.isSome_filterKey?
  obtain ⟨rfl, rfl⟩ := h.unique (denotes_of_filterKey? hread)
  exact hread

/-! ### The names of the input -/

/-- The fields and operators that the input for lists has an entry for. -/
def filterEntries (t : ObjectType) : List (Field × Operator) :=
  t.valueFields.flatMap fun f => (Operator.ofField f).map (f, ·)

/-- The name of the entry for a field and an operator. -/
def entryName (e : Field × Operator) : String := e.1.name ++ e.2.suffix

/-- The entries are the scalar and enum fields with their operators. -/
theorem mem_filterEntries :
    (f, o) ∈ filterEntries t ↔ f ∈ t.fields ∧ f.isValue = true ∧ o ∈ Operator.ofField f := by
  simp [filterEntries, ObjectType.valueFields, and_assoc]

/-- The input fields of a field are named for its operators. -/
theorem operatorFields_names (f : Field) :
    (operatorFields f).map (·.name) = (Operator.ofField f).map fun o => entryName (f, o) := by
  unfold operatorFields valueTypeName? Operator.ofField
  cases f.kind <;> simp [Function.comp_def, entryName]

/-- **The names of the input for lists** are those of its entries, and the combinators. -/
theorem whereFields_names (t : ObjectType) :
    (whereFields t).map (·.name) = (filterEntries t).map entryName ++ combinators := by
  have hentries : (t.fields.flatMap operatorFields).map (·.name) =
      (filterEntries t).map entryName := by
    unfold filterEntries ObjectType.valueFields
    induction t.fields with
    | nil => rfl
    | cons f rest ih =>
        rw [List.flatMap_cons, List.map_append, ih, operatorFields_names]
        by_cases hvalue : f.isValue = true
        · simp [List.filter_cons_of_pos hvalue, Function.comp_def]
        · have hnone : Operator.ofField f = [] :=
            List.eq_nil_iff_forall_not_mem.mpr fun o ho =>
              hvalue (Operator.isValue_of_mem_ofField ho)
          simp [List.filter_cons_of_neg hvalue, hnone]
  rw [whereFields, List.map_append, hentries, List.map_map]
  rfl

/-- Where field names differ, a key is spelled by the entries of its name. -/
theorem spells_iff (hnames : (t.fields.map (·.name)).Nodup) :
    Spells t key f o ↔ (f, o) ∈ filterEntries t ∧ key = entryName (f, o) := by
  rw [mem_filterEntries]
  constructor
  · rintro ⟨hfield, hsupported, hkey⟩
    obtain ⟨hfound, hvalue⟩ := Option.filter_eq_some_iff.mp hfield
    exact ⟨⟨List.mem_of_find?_eq_some hfound, hvalue, hsupported⟩, hkey⟩
  · rintro ⟨⟨hf, hvalue, hsupported⟩, hkey⟩
    have hfound := (List.find?_name_eq_some_iff hnames).mpr ⟨hf, rfl⟩
    exact ⟨Option.filter_eq_some_iff.mpr ⟨hfound, hvalue⟩, hsupported, hkey⟩

/-- **The input for lists and the reading of its keys agree.** On a type whose field names differ, a
key can be read exactly when it is the name of an entry, where the entries are what the input has
fields for beside the combinators; and if all names of the input differ, every name is read as the
field and operator that it was made from. -/
theorem filterKey?_inverts (hnames : (t.fields.map (·.name)).Nodup) :
    (∀ key, (filterKey? t key).isSome = true ↔ key ∈ (filterEntries t).map entryName) ∧
      (whereFields t).map (·.name) = (filterEntries t).map entryName ++ combinators ∧
      (((whereFields t).map (·.name)).Nodup →
        ∀ e ∈ filterEntries t, filterKey? t (entryName e) = some e) := by
  have hspelled : ∀ key, (filterKey? t key).isSome = true ↔
      key ∈ (filterEntries t).map entryName := fun key => by
    constructor
    · intro h
      obtain ⟨⟨f, o⟩, hread⟩ := Option.isSome_iff_exists.mp h
      obtain ⟨he, hkey⟩ := (spells_iff hnames).mp (denotes_of_filterKey? hread).spells
      exact List.mem_map.mpr ⟨(f, o), he, hkey.symm⟩
    · intro h
      obtain ⟨⟨f, o⟩, he, hkey⟩ := List.mem_map.mp h
      exact ((spells_iff hnames).mpr ⟨he, hkey.symm⟩).isSome_filterKey?
  refine ⟨hspelled, whereFields_names t, fun hdistinct e he => ?_⟩
  rw [whereFields_names] at hdistinct
  obtain ⟨⟨f, o⟩, hread⟩ :=
    Option.isSome_iff_exists.mp ((hspelled _).mpr (List.mem_map_of_mem he))
  obtain ⟨he', hkey⟩ := (spells_iff hnames).mp (denotes_of_filterKey? hread).spells
  rw [hread, List.eq_of_map_nodup (List.nodup_append.mp hdistinct).1 he he' hkey]

end Api

/-- A sensor with fields whose names end like suffixes. No name is made twice, since what is on or off
has no order. A site numbers its sensors. -/
def ObjectType.sensor : ObjectType :=
  .of "Sensor"
    [ { name := "id", typeName := "ID", kind := .scalar .id, required := true },
      { name := "active", typeName := "Boolean", kind := .scalar .boolean },
      { name := "active_lt", typeName := "Int", kind := .scalar .int },
      { name := "state_in", typeName := "State", kind := .enum },
      { name := "site", typeName := "String", kind := .scalar .string },
      { name := "serial", typeName := "String", kind := .scalar .string } ]
    { uniqueConstraints := [{ fields := ["site", "serial"] }] }

/-- Every key of the input for lists of sensors is read as what it was made from. -/
theorem Api.sensor_keys_invert :
    (ObjectType.sensor.fields.map (·.name)).Nodup ∧
      ((whereFields .sensor).map (·.name)).Nodup ∧
      ∀ e ∈ filterEntries .sensor, filterKey? .sensor (entryName e) = some e := by
  have hnames : (ObjectType.sensor.fields.map (·.name)).Nodup := by decide
  have hdistinct : ((whereFields .sensor).map (·.name)).Nodup := by decide +kernel
  exact ⟨hnames, hdistinct, (filterKey?_inverts hnames).2.2 hdistinct⟩

end DataModel
