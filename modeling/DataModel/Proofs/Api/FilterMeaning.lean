import DataModel.Api.Database
import DataModel.Proofs.Api.FilterKeys
import DataModel.Proofs.Except

/-!
# What inputs say and what filters mean

An input describes rows by an object: all of its entries have to hold, some keys combine the objects
under them, and every other key stands for conditions. `Meaning.Holds` says when an input holds for
any truth of single conditions, directly on the input. `Filter.holds` says the same of the filter
that the input is translated to. The two agree, for inputs nested to any depth.

## Convention

An entry whose value is null counts as absent. Under a key that combines, a list stands for its items
and an object for the list of itself; that nothing else is accepted there is left to the translation.

## Main results

* `InputForm.clauses_eq`, `InputForm.of_nested_eq_ok`: what the translation does with the entries of
  an object and with the objects under a key, as walks over lists.
* `InputForm.Means.item_holds_iff`: a translation that is right about single entries is right about
  inputs.
* `compoundConstraint?_eq_some_iff`: a label is looked up as the constraint that it names.
* `filters_mean_inputs`: **translation preserves meaning**, for lists and for single rows.
-/

namespace DataModel

namespace Api

/-! ### Nested objects -/

namespace Value

/-- The objects under a key that combines them. -/
def nested : Value → List Value
  | .list items => items
  | v => [v]

/-- Whether the value is null. -/
def isNull : Value → Bool
  | .null => true
  | _ => false

theorem isNull_eq_false_iff {v : Value} : v.isNull = false ↔ v ≠ .null := by
  cases v <;> simp [isNull]

/-- Only an object has entries. -/
theorem entries?_eq_some_iff {v : Value} {entries : List (String × Value)} :
    v.entries? = some entries ↔ v = .object entries := by
  cases v <;> simp [entries?]

/-- What is nested in an object is smaller than the object. -/
theorem sizeOf_lt_of_mem_nested {entries : List (String × Value)} {e : String × Value}
    (he : e ∈ entries) {v : Value} (hv : v ∈ e.2.nested) :
    sizeOf v < sizeOf (Value.object entries) := by
  obtain ⟨key, w⟩ := e
  have hentry := List.sizeOf_lt_of_mem he
  have hle : sizeOf v ≤ sizeOf w := by
    unfold nested at hv
    split at hv
    case h_1 items hw =>
      have hitem := List.sizeOf_lt_of_mem hv
      simp only at hw
      simp only [hw, list.sizeOf_spec]
      omega
    case h_2 => exact Nat.le_of_eq (congrArg sizeOf (List.mem_singleton.mp hv))
  simp only [Prod.mk.sizeOf_spec, object.sizeOf_spec] at hentry ⊢
  omega

/-- Induction from the objects that are nested in an object to the object. -/
theorem inductionOnNested {motive : Value → Prop}
    (object : ∀ entries : List (String × Value),
      (∀ e ∈ entries, ∀ v ∈ e.2.nested, motive v) → motive (.object entries))
    (other : ∀ v : Value, v.entries? = none → motive v) (v : Value) : motive v := by
  cases hv : v.entries? with
  | none => exact other v hv
  | some entries =>
      have hobject := entries?_eq_some_iff.mp hv
      rw [hobject]
      refine object entries fun e he w hw => ?_
      have : sizeOf w < sizeOf v := hobject ▸ sizeOf_lt_of_mem_nested he hw
      exact inductionOnNested object other w
termination_by sizeOf v

end Value

/-! ### What an input says -/

/-- How the objects under a key are combined. -/
inductive Connective where
  | all
  | any
  /-- Not all of them hold. -/
  | notAll

/-- What the keys of an input say: which of them combine the objects under them, and when the entry
of any other key holds. -/
structure Meaning where
  connective? : String → Option Connective
  leaf : String → Value → Prop

namespace Meaning

/-- Whether an input holds. -/
def Holds (m : Meaning) : Value → Prop
  | .object entries => ∀ e ∈ entries, e.2 ≠ .null →
      match m.connective? e.1 with
      | some .all => ∀ v ∈ e.2.nested, m.Holds v
      -- membership stands outside the conjunction so that the termination check sees it
      | some .any => ∃ v, ∃ _ : v ∈ e.2.nested, m.Holds v
      | some .notAll => ¬ ∀ v ∈ e.2.nested, m.Holds v
      | none => m.leaf e.1 e.2
  | _ => False
termination_by v => sizeOf v
decreasing_by all_goals exact Value.sizeOf_lt_of_mem_nested ‹_› ‹_›

/-- Whether an entry of an object holds. -/
def EntryHolds (m : Meaning) (e : String × Value) : Prop :=
  match m.connective? e.1 with
  | some .all => ∀ v ∈ e.2.nested, m.Holds v
  | some .any => ∃ v ∈ e.2.nested, m.Holds v
  | some .notAll => ¬ ∀ v ∈ e.2.nested, m.Holds v
  | none => m.leaf e.1 e.2

/-- An object holds when every entry holds that is not null. -/
theorem holds_object_iff {m : Meaning} {entries : List (String × Value)} :
    m.Holds (.object entries) ↔ ∀ e ∈ entries, e.2 ≠ .null → m.EntryHolds e := by
  rw [Holds]
  simp only [EntryHolds, exists_prop]

end Meaning

/-- What the input for lists says, where `atom` says which conditions hold: a key denotes a field and
an operator. -/
def whereMeaning (t : ObjectType) (atom : String → Operator → Json → Bool) : Meaning where
  connective? key :=
    if key = "_and" then some .all
    else if key = "_or" then some .any
    else if key = "_not" then some .notAll
    else none
  leaf key v := ∃ f o, Denotes t key f o ∧ atom f.name o v.toJson = true

/-- The label names the constraint: of the constraints over several fields, it is the first in the
order of their declaration that bears the label. -/
structure LabelNames (t : ObjectType) (label : String) (c : UniqueConstraint) : Prop where
  several : 1 < c.fields.length
  label_eq : c.label = label
  first : ∃ before after, t.options.uniqueConstraints = before ++ c :: after ∧
    ∀ b ∈ before, 1 < b.fields.length → b.label ≠ label

/-- What the input for single rows says, where `atom` says which conditions hold: a field is equal to
the value, or every field of the constraint that a label names is equal to the part of its name. -/
def uniqueMeaning (t : ObjectType) (atom : String → Operator → Json → Bool) : Meaning where
  connective? key := if key = "_or" then some .any else none
  leaf key v :=
    if ∃ f ∈ t.fields, f.name = key then atom key .eq v.toJson = true
    else ∃ c parts, LabelNames t key c ∧ v = .object parts ∧
      ∀ name ∈ c.fields, ∃ w, parts.lookup name = some w ∧ atom name .eq w.toJson = true

/-! ### What a filter means -/

section Filters

variable {atom : String → Operator → Json → Bool} {fs : List Filter}

namespace Filter

/-- All filters of a list hold when each of them does. -/
theorem allHold_iff : allHold atom fs = true ↔ ∀ f ∈ fs, f.holds atom = true := by
  induction fs with
  | nil => simp [allHold]
  | cons f rest ih => simp [allHold, ih]

/-- Some filter of a list holds when one of them does. -/
theorem anyHolds_iff : anyHolds atom fs = true ↔ ∃ f ∈ fs, f.holds atom = true := by
  induction fs with
  | nil => simp [anyHolds]
  | cons f rest ih => simp [anyHolds, ih]

/-- A conjunction holds when each clause does, also where a single clause stands for itself. -/
theorem all_holds_iff : (all fs).holds atom = true ↔ ∀ f ∈ fs, f.holds atom = true := by
  unfold all
  split
  case h_1 clause => simp
  case h_2 => rw [holds, allHold_iff]

end Filter

/-- The filter that combines filters. -/
def Connective.combine : Connective → List Filter → Filter
  | .all => .and
  | .any => .or
  | .notAll => .not

end Filters

/-! ### The translation, as walks over lists -/

namespace InputForm

variable (form : InputForm)

/-- The filter of one entry. -/
def clause (e : String × Value) : Except InputError Filter :=
  match form.combinator? e.1 with
  | some combine => (form.nested e.2).map combine
  | none => form.leaf e.1 e.2

/-- The clauses of an object whose first entry is not null. -/
theorem clauses_cons {e : String × Value} (he : e.2 ≠ .null) (rest : List (String × Value)) :
    form.clauses (e :: rest) = do
      let c ← form.clause e
      let cs ← form.clauses rest
      return c :: cs := by
  obtain ⟨key, v⟩ := e
  rw [clauses.eq_3 form key v rest he, clause]
  cases form.combinator? key with
  | none => rfl
  | some combine => cases form.nested v <;> rfl

/-- **The clauses of an object** are those of its entries that are not null. -/
theorem clauses_eq (entries : List (String × Value)) :
    form.clauses entries = (entries.filter fun e => !e.2.isNull).mapM form.clause := by
  induction entries with
  | nil => rfl
  | cons e rest ih =>
      by_cases hnull : e.2 = .null
      · obtain ⟨key, v⟩ := e
        obtain rfl : v = .null := hnull
        exact ih
      · have hkeep : (!e.2.isNull) = true := by simpa [Value.isNull_eq_false_iff] using hnull
        rw [form.clauses_cons hnull, List.filter_cons, if_pos hkeep, List.mapM_cons, ih]

/-- The filters of a list of objects are those of its items. -/
theorem items_eq (vs : List Value) : form.items vs = vs.mapM form.item := by
  induction vs with
  | nil => rfl
  | cons v rest ih =>
      rw [items, ih, List.mapM_cons]

variable {form}

/-- **The filters under a key** are those of the objects there. -/
theorem of_nested_eq_ok {v : Value} {fs : List Filter} (h : form.nested v = .ok fs) :
    v.nested.mapM form.item = .ok fs := by
  cases v with
  | list items => rwa [InputForm.nested, items_eq] at h
  | object entries =>
      obtain ⟨cs, hcs, h⟩ := Except.bind_eq_ok_iff.mp h
      obtain ⟨f, hf, h⟩ := Except.bind_eq_ok_iff.mp h
      obtain rfl := Except.pure_eq_ok_iff.mp h
      have hitem : form.item (.object entries) = .ok f :=
        Except.bind_eq_ok_iff.mpr ⟨cs, hcs, hf⟩
      exact List.mapM_eq_ok_iff.mpr (.cons hitem .nil)
  | _ => cases h

/-- The filter of an object is the conjunction of its clauses, of which there is one where the form
asks for an entry. -/
theorem of_item_object_eq_ok {entries : List (String × Value)} {f : Filter}
    (h : form.item (.object entries) = .ok f) :
    ∃ cs, (entries.filter fun e => !e.2.isNull).mapM form.clause = .ok cs ∧ f = Filter.all cs ∧
      (cs = [] → form.whenEmpty = none) := by
  obtain ⟨cs, hcs, hclose⟩ := Except.bind_eq_ok_iff.mp h
  refine ⟨cs, form.clauses_eq entries ▸ hcs, ?_⟩
  unfold close at hclose
  split at hclose
  case h_1 => cases hclose
  case h_2 hne =>
    refine ⟨(Except.ok.inj hclose).symm, fun hnil => ?_⟩
    exact Option.eq_none_iff_forall_ne_some.mpr fun e he => hne e hnil he

/-! ### Agreement -/

/-- The meaning is right about single entries: it combines objects as the form combines filters, and
an entry under any other key holds when its filter does. -/
structure Means (form : InputForm) (atom : String → Operator → Json → Bool) (m : Meaning) : Prop where
  combinator? : ∀ key, form.combinator? key = (m.connective? key).map Connective.combine
  leaf : ∀ key v f, form.leaf key v = .ok f → (f.holds atom = true ↔ m.leaf key v)

variable {atom : String → Operator → Json → Bool} {m : Meaning}

/-- An entry holds when its filter does, if this is so for the objects nested in it. -/
theorem Means.clause_holds_iff (hm : form.Means atom m) {e : String × Value} {f : Filter}
    (hnested : ∀ v ∈ e.2.nested, ∀ g, form.item v = .ok g → (g.holds atom = true ↔ m.Holds v))
    (h : form.clause e = .ok f) : f.holds atom = true ↔ m.EntryHolds e := by
  unfold clause at h
  rw [hm.combinator?] at h
  unfold Meaning.EntryHolds
  cases hconnective : m.connective? e.1 with
  | none =>
      rw [hconnective] at h
      exact hm.leaf e.1 e.2 f h
  | some connective =>
      rw [hconnective] at h
      obtain ⟨fs, hfs, rfl⟩ := Except.map_eq_ok_iff.mp h
      have hwalk := of_nested_eq_ok hfs
      have hall := List.forall_mem_iff_of_mapM_eq_ok hwalk hnested
      cases connective with
      | all =>
          rw [Connective.combine, Filter.holds, Filter.allHold_iff]
          exact hall
      | any =>
          rw [Connective.combine, Filter.holds, Filter.anyHolds_iff]
          exact List.exists_mem_iff_of_mapM_eq_ok hwalk hnested
      | notAll =>
          rw [Connective.combine, Filter.holds, Bool.not_eq_true', ← Bool.not_eq_true,
            Filter.allHold_iff]
          exact not_congr hall

/-- **A translation that is right about single entries is right about inputs.** The induction goes
from the objects under the keys of an object to the object. -/
theorem Means.item_holds_iff (hm : form.Means atom m) {v : Value} :
    ∀ {f : Filter}, form.item v = .ok f → (f.holds atom = true ↔ m.Holds v) := by
  induction v using Value.inductionOnNested with
  | other v hv =>
      intro f h
      cases v with
      | object entries => cases hv
      | _ => cases h
  | object entries ih =>
      intro f h
      obtain ⟨cs, hcs, rfl, -⟩ := of_item_object_eq_ok h
      have hclauses : (∀ c ∈ cs, c.holds atom = true) ↔
          ∀ e ∈ entries.filter fun e => !e.2.isNull, m.EntryHolds e := by
        refine List.forall_mem_iff_of_mapM_eq_ok hcs fun e he c hc => ?_
        exact hm.clause_holds_iff (fun v hv _ => ih e (List.mem_filter.mp he).1 v hv) hc
      rw [Filter.all_holds_iff, hclauses, Meaning.holds_object_iff]
      simp [Value.isNull_eq_false_iff]

end InputForm

/-! ### The two inputs -/

section Inputs

variable {atom : String → Operator → Json → Bool} (t : ObjectType)

/-- The input for lists is right about single entries. -/
theorem whereForm_means : (whereForm t).Means atom (whereMeaning t atom) := by
  constructor
  case combinator? =>
    intro key
    simp only [whereForm, whereMeaning]
    split_ifs <;> rfl
  case leaf =>
    intro key v f h
    simp only [whereForm] at h
    simp only [whereMeaning]
    split at h
    case h_1 g o hread =>
      obtain rfl := Except.ok.inj h
      have hdenotes := filterKey?_eq_some_iff.mp hread
      rw [Filter.holds]
      constructor
      · intro hatom
        exact ⟨g, o, hdenotes, hatom⟩
      · rintro ⟨g', o', hdenotes', hatom⟩
        obtain ⟨rfl, rfl⟩ := hdenotes.unique hdenotes'
        exact hatom
    case h_2 => cases h

/-- **A label is looked up** as the constraint that it names. -/
theorem compoundConstraint?_eq_some_iff {t : ObjectType} {label : String} {c : UniqueConstraint} :
    compoundConstraint? t label = some c ↔ LabelNames t label c := by
  unfold compoundConstraint?
  rw [List.find?_eq_some_iff_append]
  constructor
  · rintro ⟨hc, before, after, hsplit, hbefore⟩
    have hc : 1 < c.fields.length ∧ c.label = label := by simpa using hc
    refine ⟨hc.1, hc.2, before, after, hsplit, fun b hb hseveral hlabel => ?_⟩
    have hnot := hbefore b hb
    simp [hseveral, hlabel] at hnot
  · rintro ⟨hseveral, hlabel, before, after, hsplit, hbefore⟩
    refine ⟨by simp [hseveral, hlabel], before, after, hsplit, fun b hb => ?_⟩
    by_cases hlong : 1 < b.fields.length
    · simp [hbefore b hb hlong]
    · simp [hlong]

/-- A label names one constraint at most. -/
theorem LabelNames.unique {t : ObjectType} {label : String} {c c' : UniqueConstraint}
    (h : LabelNames t label c) (h' : LabelNames t label c') : c = c' :=
  Option.some.inj <|
    (compoundConstraint?_eq_some_iff.mpr h).symm.trans (compoundConstraint?_eq_some_iff.mpr h')

/-- A constraint that is named is one of the type. -/
theorem LabelNames.mem {t : ObjectType} {label : String} {c : UniqueConstraint}
    (h : LabelNames t label c) : c ∈ t.options.uniqueConstraints := by
  obtain ⟨before, after, hsplit, -⟩ := h.first
  simp [hsplit]

/-- A key is the name of a field when a field is found under it. -/
theorem isSome_field?_iff {t : ObjectType} {name : String} :
    (t.field? name).isSome = true ↔ ∃ f ∈ t.fields, f.name = name := by
  simp [ObjectType.field?]

/-- The conditions of a constraint hold when each field equals the part of its name. -/
theorem compoundConditions_hold_iff {label : String} {parts : List (String × Value)}
    {fields : List String} {fs : List Filter} (h : compoundConditions label parts fields = .ok fs) :
    (∀ f ∈ fs, f.holds atom = true) ↔
      ∀ name ∈ fields, ∃ w, parts.lookup name = some w ∧ atom name .eq w.toJson = true := by
  refine List.forall_mem_iff_of_mapM_eq_ok h fun name _ f hf => ?_
  split at hf
  case h_1 w hw =>
    obtain rfl := Except.ok.inj hf
    rw [hw, Filter.eq, Filter.holds]
    simp
  case h_2 => cases hf

/-- The conditions of a constraint hold when the entry under its label says so, since no other
constraint is named by the label. -/
theorem labelled_holds_iff {label : String} {c : UniqueConstraint} {parts : List (String × Value)}
    {fs : List Filter} (hc : LabelNames t label c)
    (h : compoundConditions label parts c.fields = .ok fs) :
    (∀ f ∈ fs, f.holds atom = true) ↔
      ∃ c' parts', LabelNames t label c' ∧ Value.object parts = .object parts' ∧
        ∀ name ∈ c'.fields, ∃ w, parts'.lookup name = some w ∧ atom name .eq w.toJson = true := by
  rw [compoundConditions_hold_iff h]
  constructor
  · intro hfields
    exact ⟨c, parts, hc, rfl, hfields⟩
  · rintro ⟨c', parts', hc', hparts, hfields⟩
    obtain rfl := hc.unique hc'
    obtain rfl := Value.object.inj hparts
    exact hfields

/-- The input for single rows is right about single entries. -/
theorem uniqueForm_means : (uniqueForm t).Means atom (uniqueMeaning t atom) := by
  constructor
  case combinator? =>
    intro key
    simp only [uniqueForm, uniqueMeaning]
    split_ifs <;> rfl
  case leaf =>
    intro key v f h
    simp only [uniqueForm, isSome_field?_iff] at h
    simp only [uniqueMeaning]
    split at h
    case isTrue hfield =>
      obtain rfl := Except.ok.inj h
      rw [if_pos hfield, Filter.eq, Filter.holds]
    case isFalse hfield =>
      rw [if_neg hfield]
      split at h
      case h_1 => cases h
      case h_2 c hc =>
        split at h
        case h_1 => cases h
        case h_2 parts hparts =>
          obtain rfl := Value.entries?_eq_some_iff.mp hparts
          obtain ⟨fs, hfs, rfl⟩ := Except.map_eq_ok_iff.mp h
          rw [Filter.holds, Filter.allHold_iff]
          exact labelled_holds_iff t (compoundConstraint?_eq_some_iff.mp hc) hfs

/-- **Translation preserves meaning.** For any truth of single conditions and any value, whenever the
value is translated as an input for lists or for single rows, the filter holds exactly when the
input does. -/
theorem filters_mean_inputs (atom : String → Operator → Json → Bool) (v : Value) :
    (∀ f, whereFilter t v = .ok f → (f.holds atom = true ↔ (whereMeaning t atom).Holds v)) ∧
      ∀ f, uniqueFilter t v = .ok f → (f.holds atom = true ↔ (uniqueMeaning t atom).Holds v) :=
  ⟨fun _ h => (whereForm_means t).item_holds_iff h,
    fun _ h => (uniqueForm_means t).item_holds_iff h⟩

end Inputs

end Api

/-! ### Inputs about sensors -/

/-- Sensors at northern sites for which two things are not both so; one of these never is. -/
def sensorList : Api.Value :=
  .object
    [ ("_and", .object [("site_starts_with", .string "north"), ("active", .null)]),
      ("_not", .list [.object [("active_lt_gte", .int 3)], .object [("_or", .list [])]]) ]

/-- A sensor by number, or by its serial number at a site. -/
def sensorRow : Api.Value :=
  .object
    [ ("_or", .list
        [ .object [("id", .int 1)],
          .object [("site_serial", .object [("serial", .string "7"), ("site", .string "north")])] ]) ]

/-- The conditions on the site and the serial number. -/
def siteConditions (column : String) (_ : Api.Operator) (_ : Json) : Bool :=
  ["site", "serial"].contains column

/-- Both inputs hold where the conditions on site and serial number do, because their filters do. -/
theorem Api.sensor_inputs_hold :
    ∃ list row, whereFilter .sensor sensorList = .ok list ∧
      uniqueFilter .sensor sensorRow = .ok row ∧
      (whereMeaning .sensor siteConditions).Holds sensorList ∧
      (uniqueMeaning .sensor siteConditions).Holds sensorRow := by
  obtain ⟨list, hlist, hholds⟩ :
      ∃ f, whereFilter .sensor sensorList = .ok f ∧ f.holds siteConditions = true := ⟨_, rfl, rfl⟩
  obtain ⟨row, hrow, hholds'⟩ :
      ∃ f, uniqueFilter .sensor sensorRow = .ok f ∧ f.holds siteConditions = true := ⟨_, rfl, rfl⟩
  have hmeaning := (filters_mean_inputs .sensor siteConditions sensorList).1
  have hmeaning' := (filters_mean_inputs .sensor siteConditions sensorRow).2
  exact ⟨list, row, hlist, hrow, (hmeaning list hlist).mp hholds, (hmeaning' row hrow).mp hholds'⟩

end DataModel
