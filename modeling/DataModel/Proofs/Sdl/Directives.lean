import DataModel.Document.Lowering
import DataModel.Proofs.Except
import DataModel.Proofs.Lookup

/-!
# What directives say

The options of types and fields are read off directives by look-ups that take the first match and
conversions that may fail. What a directive says is stated here by judgments that mention neither:
an argument is the value of the first argument of its name, an entry of an object likewise, and of
several directives of one name the first counts. Each conversion succeeds with exactly what its
judgment allows.

## Main results

* `typeOptions_eq_ok_iff`: the constraints and indexes that `@options` describes.
* `FirstGives`: what the first directive of a name gives, or what holds where there is none.
* `fieldDefault_eq_ok_iff`, `fieldMaxLength_eq_ok_iff`, `fieldRelationName_eq_ok_iff`: the options
  of a field.
-/

namespace DataModel.Sdl

/-! ### Literals -/

/-- The literal of a default. -/
def Value.ofDefault : DefaultValue → Value
  | .string s => .string s
  | .int n => .int n
  | .float x => .float x
  | .boolean b => .boolean b
  | .enum s => .enum s

/-- A literal is a default if it is the literal of one. -/
theorem Value.toDefault?_eq_some_iff {v : Value} {a : DefaultValue} :
    v.toDefault? = some a ↔ v = .ofDefault a := by
  cases v <;> cases a <;> simp [toDefault?, ofDefault]

/-- A string or enum literal and its text. -/
inductive Value.IsText : Value → String → Prop
  | string (s : String) : IsText (.string s) s
  | enum (s : String) : IsText (.enum s) s

/-- The text of a literal. -/
theorem Value.text?_eq_some_iff {v : Value} {s : String} : v.text? = some s ↔ v.IsText s := by
  constructor
  · intro h
    cases v with
    | string => exact Option.some.inj h ▸ .string _
    | enum => exact Option.some.inj h ▸ .enum _
    | _ => cases h
  · rintro (_ | _) <;> rfl

/-- A literal is an object, in which the first entry with a key has a value. -/
def Value.HasEntry (v : Value) (key : String) (entry : Value) : Prop :=
  ∃ entries, v = .object entries ∧ List.IsFirst Prod.fst entries key (key, entry)

/-- A look-up in a literal finds the first entry of an object. -/
theorem Value.get?_eq_some_iff {v entry : Value} {key : String} :
    v.get? key = some entry ↔ v.HasEntry key entry := by
  cases v with
  | object entries => simp [get?, HasEntry, List.lookup_eq_some_iff_isFirst]
  | _ => simp [get?, HasEntry]

/-- The first argument of a name has a value. -/
def Directive.HasArgument (d : Directive) (name : String) (v : Value) : Prop :=
  ∃ a, List.IsFirst (·.name) d.arguments name a ∧ a.value = v

/-- A look-up among arguments finds the first one of the name. -/
theorem Directive.argument?_eq_some_iff {d : Directive} {name : String} {v : Value} :
    d.argument? name = some v ↔ d.HasArgument name v := by
  simp only [argument?, Option.map_eq_some_iff, List.find?_name_eq_some_iff_isFirst, HasArgument]

/-! ### What a directive says about a type -/

/-- A text under a key of an object; an absent entry or null is none. -/
inductive Value.OptionalText (entry : Value) (key : String) : Option String → Prop
  | absent (missing : ∀ v, ¬ entry.HasEntry key v) : OptionalText entry key none
  | null (null : entry.HasEntry key .null) : OptionalText entry key none
  | text {v : Value} {s : String} (has : entry.HasEntry key v) (text : v.IsText s) :
      OptionalText entry key (some s)

/-- The names of fields that an object lists. -/
def Value.ListsFields (entry : Value) (names : List String) : Prop :=
  ∃ items, entry.HasEntry "fields" (.list items) ∧ List.Forall₂ Value.IsText items names

/-- An object describes a constraint. -/
structure Value.DescribesConstraint (entry : Value) (c : UniqueConstraint) : Prop where
  name : entry.OptionalText "name" c.name
  fields : entry.ListsFields c.fields

/-- An object describes an index. -/
structure Value.DescribesIndex (entry : Value) (i : Index) : Prop where
  name : entry.OptionalText "name" i.name
  fields : entry.ListsFields i.fields
  type : entry.OptionalText "type" i.indexType

/-- The descriptions of constraints: the list `unique` in the argument `constraints`. -/
inductive Directive.ListsConstraints (d : Directive) : List Value → Prop
  | absent (missing : ∀ v, d.HasArgument "constraints" v → ∀ u, ¬ v.HasEntry "unique" u) :
      ListsConstraints d []
  | list {v : Value} {items : List Value} (argument : d.HasArgument "constraints" v)
      (entry : v.HasEntry "unique" (.list items)) : ListsConstraints d items

/-- The descriptions of indexes: the argument `indexes`. -/
inductive Directive.ListsIndexes (d : Directive) : List Value → Prop
  | absent (missing : ∀ v, ¬ d.HasArgument "indexes" v) : ListsIndexes d []
  | list {items : List Value} (argument : d.HasArgument "indexes" (.list items)) :
      ListsIndexes d items

/-- A directive describes the constraints and indexes of a type, in their order. -/
structure Directive.DescribesOptions (d : Directive) (o : TypeOptions) : Prop where
  constraints : ∃ items, d.ListsConstraints items ∧
    List.Forall₂ Value.DescribesConstraint items o.uniqueConstraints
  indexes : ∃ items, d.ListsIndexes items ∧ List.Forall₂ Value.DescribesIndex items o.indexes

/-- The text under a key is read. -/
theorem optionalText_eq_ok_iff {entry : Value} {key : String} {o : Option String} :
    optionalText entry key = .ok o ↔ entry.OptionalText key o := by
  unfold optionalText
  constructor
  · intro h
    split at h
    case h_1 hnone =>
      exact Except.ok.inj h ▸ .absent fun v hv => by simp [← Value.get?_eq_some_iff, hnone] at hv
    case h_2 hnull => exact Except.ok.inj h ▸ .null (Value.get?_eq_some_iff.mp hnull)
    case h_3 v hv =>
      split at h
      case h_1 s hs =>
        exact Except.ok.inj h ▸ .text (Value.get?_eq_some_iff.mp hv) (Value.text?_eq_some_iff.mp hs)
      case h_2 => cases h
  · rintro (hmissing | hnull | ⟨hv, ht⟩)
    · have hnone : entry.get? key = none := Option.eq_none_iff_forall_ne_some.mpr fun v hv =>
        hmissing v (Value.get?_eq_some_iff.mp hv)
      rw [hnone]
    · rw [Value.get?_eq_some_iff.mpr hnull]
    · rw [Value.get?_eq_some_iff.mpr hv]
      cases ht <;> rfl

/-- The names of fields are read one by one. -/
theorem fieldNames_eq_ok_iff {entry : Value} {names : List String} :
    fieldNames entry = .ok names ↔ entry.ListsFields names := by
  unfold fieldNames Value.ListsFields
  constructor
  · intro h
    split at h
    case h_1 => cases h
    case h_2 items hitems =>
      obtain ⟨v, hv, hlist⟩ := Option.bind_eq_some_iff.mp hitems
      obtain rfl : v = .list items := by cases v <;> simp_all [Value.list?]
      refine ⟨items, Value.get?_eq_some_iff.mp hv, (List.mapM_eq_ok_iff.mp h).imp fun v s hs => ?_⟩
      refine Value.text?_eq_some_iff.mp ?_
      cases htext : v.text? with
      | none => simp [htext] at hs
      | some text => simpa [htext] using hs
  · rintro ⟨items, hentry, htexts⟩
    rw [Value.get?_eq_some_iff.mpr hentry]
    refine List.mapM_eq_ok_iff.mpr (htexts.imp fun v s hs => ?_)
    simp only [Value.text?_eq_some_iff.mpr hs]

/-- The description of a constraint is read. -/
theorem uniqueConstraint_eq_ok_iff {entry : Value} {c : UniqueConstraint} :
    uniqueConstraint entry = .ok c ↔ entry.DescribesConstraint c := by
  simp only [uniqueConstraint, Except.bind_eq_ok_iff, Except.pure_eq_ok_iff, optionalText_eq_ok_iff,
    fieldNames_eq_ok_iff]
  constructor
  · rintro ⟨name, hname, fields, hfields, rfl⟩
    exact ⟨hname, hfields⟩
  · rintro ⟨hname, hfields⟩
    exact ⟨_, hname, _, hfields, rfl⟩

/-- The description of an index is read. -/
theorem index_eq_ok_iff {entry : Value} {i : Index} :
    index entry = .ok i ↔ entry.DescribesIndex i := by
  simp only [index, Except.bind_eq_ok_iff, Except.pure_eq_ok_iff, optionalText_eq_ok_iff,
    fieldNames_eq_ok_iff]
  constructor
  · rintro ⟨name, hname, fields, hfields, type, htype, rfl⟩
    exact ⟨hname, hfields, htype⟩
  · rintro ⟨hname, hfields, htype⟩
    exact ⟨_, hname, _, hfields, _, htype, rfl⟩

/-- At a place there is a list or nothing. -/
theorem itemsAt_eq_ok_iff {place : String} {v : Option Value} {items : List Value} :
    itemsAt place v = .ok items ↔ v = none ∧ items = [] ∨ v = some (.list items) := by
  cases v with
  | none => simp [itemsAt, eq_comm]
  | some v => cases v <;> simp [itemsAt, Value.list?]

/-- The descriptions of constraints are found. -/
theorem itemsAt_constraints_eq_ok_iff {d : Directive} {place : String} {items : List Value} :
    itemsAt place ((d.argument? "constraints").bind (·.get? "unique")) = .ok items ↔
      d.ListsConstraints items := by
  rw [itemsAt_eq_ok_iff]
  constructor
  · rintro (⟨hnone, rfl⟩ | hlist)
    · refine .absent fun v hv u hu => ?_
      rw [← Directive.argument?_eq_some_iff] at hv
      rw [← Value.get?_eq_some_iff] at hu
      simp [hv, hu] at hnone
    · obtain ⟨v, hv, hitems⟩ := Option.bind_eq_some_iff.mp hlist
      exact .list (Directive.argument?_eq_some_iff.mp hv) (Value.get?_eq_some_iff.mp hitems)
  · rintro (hmissing | ⟨hv, hitems⟩)
    · refine .inl ⟨Option.bind_eq_none_iff.mpr fun v hv => ?_, rfl⟩
      exact Option.eq_none_iff_forall_ne_some.mpr fun u hu =>
        hmissing v (Directive.argument?_eq_some_iff.mp hv) u (Value.get?_eq_some_iff.mp hu)
    · rw [Directive.argument?_eq_some_iff.mpr hv, Option.bind_some,
        Value.get?_eq_some_iff.mpr hitems]
      exact .inr rfl

/-- The descriptions of indexes are found. -/
theorem itemsAt_indexes_eq_ok_iff {d : Directive} {place : String} {items : List Value} :
    itemsAt place (d.argument? "indexes") = .ok items ↔ d.ListsIndexes items := by
  rw [itemsAt_eq_ok_iff]
  constructor
  · rintro (⟨hnone, rfl⟩ | hlist)
    · exact .absent fun v hv => by simp [← Directive.argument?_eq_some_iff, hnone] at hv
    · exact .list (Directive.argument?_eq_some_iff.mp hlist)
  · rintro (hmissing | hlist)
    · exact .inl ⟨Option.eq_none_iff_forall_ne_some.mpr fun v hv =>
        hmissing v (Directive.argument?_eq_some_iff.mp hv), rfl⟩
    · exact .inr (Directive.argument?_eq_some_iff.mpr hlist)

/-- **The options of a type** are those that the directive describes. -/
theorem typeOptions_eq_ok_iff {d : Directive} {o : TypeOptions} :
    typeOptions d = .ok o ↔ d.DescribesOptions o := by
  simp only [typeOptions, Except.bind_eq_ok_iff, Except.pure_eq_ok_iff, List.mapM_eq_ok_iff,
    itemsAt_constraints_eq_ok_iff, itemsAt_indexes_eq_ok_iff, uniqueConstraint_eq_ok_iff,
    index_eq_ok_iff]
  constructor
  · rintro ⟨unique, hunique, constraints, hconstraints, listed, hlisted, indexes, hindexes, rfl⟩
    exact ⟨⟨unique, hunique, hconstraints⟩, listed, hlisted, hindexes⟩
  · rintro ⟨⟨unique, hunique, hconstraints⟩, listed, hlisted, hindexes⟩
    exact ⟨_, hunique, _, hconstraints, _, hlisted, _, hindexes, rfl⟩

/-! ### Options that a directive gives -/

/-- What the first directive of a name gives, or what holds where there is none. -/
inductive FirstGives {α : Type} (gives : Directive → α → Prop) (absent : α) (ds : List Directive)
    (name : String) : α → Prop
  | absent (missing : ∀ d ∈ ds, d.name ≠ name) : FirstGives gives absent ds name absent
  | first {d : Directive} {a : α} (first : List.IsFirst (·.name) ds name d) (given : gives d a) :
      FirstGives gives absent ds name a

variable {ds : List Directive}

/-- Where no directive has the name, nothing is given. -/
theorem firstGives_iff_of_none {α : Type} {gives : Directive → α → Prop} {absent a : α} {name : String}
    (h : directive? ds name = none) : FirstGives gives absent ds name a ↔ a = absent := by
  have hmissing := List.find?_name_eq_none_iff.mp h
  constructor
  · rintro (_ | ⟨⟨before, after, rfl, hname, -⟩, -⟩)
    · rfl
    · exact absurd hname (hmissing _ (by simp))
  · rintro rfl
    exact .absent hmissing

/-- Where a directive has the name, the first such directive gives what holds. -/
theorem firstGives_iff_of_some {α : Type} {gives : Directive → α → Prop} {absent a : α} {name : String}
    {d : Directive} (h : directive? ds name = some d) :
    FirstGives gives absent ds name a ↔ gives d a := by
  constructor
  · rintro (hmissing | ⟨hfirst, hgives⟩)
    · exact absurd h (by simp [directive?, List.find?_name_eq_none_iff.mpr hmissing])
    · have hd := List.find?_name_eq_some_iff_isFirst.mpr hfirst
      exact Option.some.inj (hd.symm.trans h) ▸ hgives
  · exact .first (List.find?_name_eq_some_iff_isFirst.mp h)

/-- The argument `value` is the literal of a default. -/
def Directive.GivesDefault (d : Directive) (o : Option DefaultValue) : Prop :=
  ∃ v, o = some v ∧ d.HasArgument "value" (.ofDefault v)

/-- The argument `value` is a positive number of 32 bits. -/
def Directive.GivesLength (d : Directive) (o : Option UInt32) : Prop :=
  ∃ n : UInt32, o = some n ∧ n ≠ 0 ∧
    ∃ m : Int64, d.HasArgument "value" (.int m) ∧ m.toInt = n.toNat

/-- The argument `name` is a text, or there is none. -/
inductive Directive.GivesHint (d : Directive) : Option String → Prop
  | absent (missing : ∀ v, ¬ d.HasArgument "name" v) : GivesHint d none
  | text {s : String} (argument : d.HasArgument "name" (.string s)) : GivesHint d (some s)

variable {typeName : String} {f : FieldDefinition}

/-- **The default** is the one that the first directive `@default` gives. -/
theorem fieldDefault_eq_ok_iff {o : Option DefaultValue} :
    fieldDefault typeName f = .ok o ↔
      FirstGives Directive.GivesDefault none f.directives "default" o := by
  unfold fieldDefault
  cases hfirst : directive? f.directives "default" with
  | none => simp [firstGives_iff_of_none hfirst, eq_comm]
  | some d =>
      rw [firstGives_iff_of_some hfirst]
      simp only [Directive.GivesDefault, ← Directive.argument?_eq_some_iff]
      cases d.argument? "value" with
      | none => simp
      | some v =>
          simp only [Option.some.injEq, ← Value.toDefault?_eq_some_iff]
          cases v.toDefault? <;> simp [eq_comm]

/-- The positive integers of 32 bits are the numbers other than zero. -/
theorem ofNat_toNat_eq_iff {z : Int} {n : UInt32} :
    (z ≠ 0 ∧ fitsUInt32 z = true) ∧ UInt32.ofNat z.toNat = n ↔ n ≠ 0 ∧ z = n.toNat := by
  simp only [fitsUInt32, Bool.and_eq_true, decide_eq_true_eq]
  constructor
  · rintro ⟨⟨hne, hlow, hhigh⟩, rfl⟩
    have hnat : (UInt32.ofNat z.toNat).toNat = z.toNat := UInt32.toNat_ofNat_of_lt' (by
      rw [UInt32.size]
      omega)
    refine ⟨fun hzero => ?_, by omega⟩
    rw [hzero, UInt32.toNat_zero] at hnat
    omega
  · rintro ⟨hne, rfl⟩
    have hpositive : n.toNat ≠ 0 := fun hzero => hne (UInt32.toNat_inj.mp hzero)
    have hbound := n.toNat_lt
    refine ⟨⟨by omega, by omega, by omega⟩, ?_⟩
    rw [Int.toNat_natCast, UInt32.ofNat_toNat]

/-- A literal is a length if it is a positive number of 32 bits. -/
theorem Value.length?_eq_some_iff {v : Value} {n : UInt32} :
    v.length? = some n ↔ n ≠ 0 ∧ ∃ m : Int64, v = .int m ∧ m.toInt = n.toNat := by
  cases v with
  | int m =>
      simp only [length?, Bool.and_eq_true, decide_eq_true_eq, Option.ite_none_right_eq_some,
        Option.some.injEq, ofNat_toNat_eq_iff, Value.int.injEq, exists_eq_left']
  | _ => simp [length?]

/-- **The maximum length** is the one that the first directive `@maxLength` gives. -/
theorem fieldMaxLength_eq_ok_iff {o : Option UInt32} :
    fieldMaxLength typeName f = .ok o ↔
      FirstGives Directive.GivesLength none f.directives "maxLength" o := by
  unfold fieldMaxLength
  cases hfirst : directive? f.directives "maxLength" with
  | none => simp [firstGives_iff_of_none hfirst, eq_comm]
  | some d =>
      rw [firstGives_iff_of_some hfirst]
      simp only [Directive.GivesLength, ← Directive.argument?_eq_some_iff]
      cases d.argument? "value" with
      | none => simp
      | some v =>
          simp only [Option.some.injEq, ← Value.length?_eq_some_iff, Option.bind_some]
          cases v.length? <;> simp [eq_comm]

/-- **The hint** is the one that the first directive `@relation` gives. -/
theorem fieldRelationName_eq_ok_iff {o : Option String} :
    fieldRelationName typeName f = .ok o ↔
      FirstGives Directive.GivesHint none f.directives "relation" o := by
  unfold fieldRelationName
  cases hfirst : directive? f.directives "relation" with
  | none => simp [firstGives_iff_of_none hfirst, eq_comm]
  | some d =>
      rw [firstGives_iff_of_some hfirst, Option.bind_some]
      constructor
      · intro h
        split at h
        case h_1 hnone =>
          refine Except.ok.inj h ▸ .absent fun v hv => ?_
          simp [← Directive.argument?_eq_some_iff, hnone] at hv
        case h_2 s hs => exact Except.ok.inj h ▸ .text (Directive.argument?_eq_some_iff.mp hs)
        case h_3 => cases h
      · rintro (hmissing | hs)
        · have hnone : d.argument? "name" = none := Option.eq_none_iff_forall_ne_some.mpr fun v hv =>
            hmissing v (Directive.argument?_eq_some_iff.mp hv)
          rw [hnone]
        · rw [Directive.argument?_eq_some_iff.mpr hs]

end DataModel.Sdl
