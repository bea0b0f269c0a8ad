import DataModel.Proofs.Api.FilterKeys
import DataModel.Proofs.Api.TypeNames
import DataModel.Proofs.Sdl.Names
import DataModel.Proofs.Text.CamelCase

/-!
# The form of the names of the API

The names in the types of an API are put together from declared names and fixed parts, and what is
made of names by adding to them is a name again. Two kinds of names come about otherwise. The fields
of the root are camel case forms, which drop the underscores that a name begins with. The key for a
constraint over several fields is its label, which a directive may give as any text, and its nested
input is called after the label as well. Nobody looks at the form of either.

## Main results

* `mem_registered_iff`: the types that are registered, by what they come from.
* `of_uniqueInputs_eq_ok`: the names in the inputs for single rows.
* `names_spelled_iff`: **the names of an API that is generated for a text have the form of names**
  exactly when each object type has a letter first and each label that is given is a name, and no
  other name can have another form.
-/

namespace DataModel

namespace Api

/-! ### The names of a type -/

/-- The names in a type: its own and those of its members, which are fields with their arguments, or
items. -/
def ApiType.names : ApiType → List String
  | .object name fields => name :: fields.flatMap fun f => f.name :: f.arguments.map (·.name)
  | .input name fields => name :: fields.map (·.name)
  | .enum name items => name :: items
  | .dateTime name _ => [name]

variable {d : Document} {set : RelationSet} {t : ObjectType} {c : UniqueConstraint}

/-- An output field bears the name of its field and has no arguments. -/
theorem of_outputField_eq_ok {f : Field} {o : OutputField} (h : outputField d set t f = .ok o) :
    o.name = f.name ∧ o.arguments = [] := by
  unfold outputField at h
  split at h
  · obtain rfl := Except.ok.inj h
    exact ⟨rfl, rfl⟩
  · split at h
    · cases h
    · obtain ⟨_, -, h⟩ := Except.bind_eq_ok_iff.mp h
      obtain rfl := Except.pure_eq_ok_iff.mp h
      exact ⟨rfl, rfl⟩

/-- The names in an output type are those of the type and of its fields. -/
theorem names_of_objectOf {type : ApiType} (h : objectOf d set t = .ok type) :
    type.names = t.name :: t.fields.map (·.name) := by
  obtain ⟨fields, rfl, houtputs⟩ := of_objectOf_eq_ok h
  have hnames : (fields.map fun o => o.name :: o.arguments.map (·.name)) =
      t.fields.map fun f => [f.name] :=
    List.map_eq_of_mapM_eq_ok houtputs fun f _ o ho => by
      obtain ⟨hname, harguments⟩ := of_outputField_eq_ok ho
      rw [hname, harguments, List.map_nil]
  rw [ApiType.names, List.flatMap_def, hnames, ← List.flatMap_def, List.map_eq_flatMap]

/-- The names in a nested input are its own and those of the fields of the constraint. -/
theorem names_of_nestedInput {label : String} {fields : List String} {type : ApiType}
    (h : nestedInput t label fields = .ok type) :
    type.names = nestedInputName t label :: fields := by
  rw [nestedInput_eq] at h
  obtain ⟨inputs, hinputs, htype⟩ := Except.bind_eq_ok_iff.mp h
  obtain rfl := Except.pure_eq_ok_iff.mp htype
  have hwalk : inputs.map (·.name) = fields := by
    refine List.foldlM_invariant (fun (names : List String) (inputs : List InputField) =>
      inputs.map (·.name) = names) ?_ hinputs rfl
    intro names name _ inputs inputs' _ hnames hstep
    obtain ⟨f, hf, hadd⟩ := Except.bind_eq_ok_iff.mp hstep
    split at hadd
    · cases hadd
    · obtain rfl := Except.pure_eq_ok_iff.mp hadd
      rw [List.map_append, hnames, List.map_singleton, of_constraintField_eq_ok hf]
  rw [ApiType.names, hwalk]

/-- **The names in the inputs for single rows**: the input itself has the keys and the one that
combines, and each nested input the names of the label and of the fields of its constraint. -/
theorem of_uniqueInputs_eq_ok {types : List ApiType} (h : uniqueInputs t = .ok types) :
    ∃ fields nested, types = .input (uniqueInputName t) fields :: nested ∧
      (∀ name, name ∈ fields.map (·.name) ↔ name ∈ lookupKeys t ∨ name = "_or") ∧
      ∀ type ∈ nested, ∃ c ∈ t.options.uniqueConstraints, c.fields.length ≠ 1 ∧
        type.names = nestedInputName t c.label :: c.fields := by
  obtain ⟨parts, hparts, h⟩ := Except.bind_eq_ok_iff.mp h
  obtain ⟨input, hinput, htypes⟩ := Except.bind_eq_ok_iff.mp h
  obtain rfl := of_inputOf_eq_ok hinput
  refine ⟨_, _, (Except.pure_eq_ok_iff.mp htypes).symm, fun name => ?_, fun type htype => ?_⟩
  · have hkeys : parts.map (·.1.name) = t.options.uniqueConstraints.map constraintKey :=
      List.map_eq_of_mapM_eq_ok hparts fun c _ part hpart => (of_constraintInput_eq_ok hpart).1
    rw [List.map_append, List.mem_append, (distinctFields_names _).2, List.map_append,
      keyFields_names, List.map_map, Function.comp_def, hkeys, lookupKeys, List.map_singleton,
      List.mem_singleton]
  · obtain ⟨part, hpart, hnested⟩ := List.mem_filterMap.mp htype
    obtain ⟨c, hc, hpart⟩ := List.exists_mem_of_mapM_eq_ok hparts hpart
    rcases (of_constraintInput_eq_ok hpart).2 with ⟨-, hnone⟩ | ⟨hlength, built, hbuilt, hsome⟩
    · rw [hnone] at hnested
      cases hnested
    · rw [hsome] at hnested
      exact ⟨c, hc, hlength, Option.some.inj hnested ▸ names_of_nestedInput hbuilt⟩

/-! ### The registered types -/

/-- The types that an object type gives rise to. -/
inductive Derives (d : Document) (set : RelationSet) (t : ObjectType) : ApiType → Prop
  | output {type : ApiType} : objectOf d set t = .ok type → Derives d set t type
  | list {type : ApiType} : whereInput t = .ok type → Derives d set t type
  | row {types : List ApiType} {type : ApiType} :
      uniqueInputs t = .ok types → type ∈ types → Derives d set t type
  | order {type : ApiType} : orderInput? t = some type → Derives d set t type

/-- The root of the API: two fields for each object type. -/
def rootType (d : Document) : ApiType :=
  .object queryRoot (d.objectTypes.flatMap fun t => [lookupField t, listingField t])

/-- An object type adds its root fields and the types that it gives rise to. -/
theorem exists_of_addObjectType {draft draft' : Draft}
    (h : draft.addObjectType d set t = .ok draft') :
    draft'.rootFields = draft.rootFields ++ [lookupField t, listingField t] ∧
      (∀ type, type ∈ draft'.types ↔ type ∈ draft.types ∨ Derives d set t type) ∧
      ∃ types, uniqueInputs t = .ok types := by
  simp only [Draft.addObjectType, Except.bind_eq_ok_iff, Except.pure_eq_ok_iff] at h
  obtain ⟨object, hobject, list, hlist, unique, hunique, lookups, hlookups, listings, hlistings,
    rfl⟩ := h
  refine ⟨?_, fun type => ?_, unique, hunique⟩
  · rw [of_addField_eq_ok hlistings, of_addField_eq_ok hlookups, List.append_assoc]
    rfl
  · have hderives : Derives d set t type ↔
        type = object ∨ type = list ∨ type ∈ unique ∨ orderInput? t = some type := by
      constructor
      · intro h
        cases h with
        | output h => exact .inl (Except.ok.inj (h.symm.trans hobject))
        | list h => exact .inr (.inl (Except.ok.inj (h.symm.trans hlist)))
        | row h hmem => exact .inr (.inr (.inl (Except.ok.inj (h.symm.trans hunique) ▸ hmem)))
        | order h => exact .inr (.inr (.inr h))
      · rintro (rfl | rfl | h | h)
        exacts [.output hobject, .list hlist, .row hunique h, .order h]
    simp only [hderives, List.mem_append, List.mem_cons, Option.mem_toList, or_assoc]

/-- **The registered types** are the root, the enum types, the scalar for dates where it is used,
and what the object types give rise to. Every object type has an input for single rows. -/
theorem mem_registered_iff {registered : List ApiType} (h : Registers d set registered) :
    (∀ type, type ∈ registered ↔
      type = rootType d ∨ (∃ e ∈ d.enumTypes, enumOf e = type) ∨
        (d.usesDateTime = true ∧ type = dateTimeScalar) ∨
          ∃ t ∈ d.objectTypes, Derives d set t type) ∧
      ∀ t ∈ d.objectTypes, ∃ types, uniqueInputs t = .ok types := by
  obtain ⟨draft, hdraft, rfl⟩ := h
  obtain ⟨hroot, htypes, hunique⟩ := List.foldlM_invariant
    (fun (done : List ObjectType) (draft : Draft) =>
      draft.rootFields = (done.flatMap fun t => [lookupField t, listingField t]) ∧
        (∀ type, type ∈ draft.types ↔
          type ∈ (Draft.initial d).types ∨ ∃ t ∈ done, Derives d set t type) ∧
        ∀ t ∈ done, ∃ types, uniqueInputs t = .ok types)
    (fun done t _ _ _ _ hdone hstep => by
      obtain ⟨hroot, htypes, hunique⟩ := exists_of_addObjectType hstep
      refine ⟨by rw [hroot, hdone.1]; simp, fun type => ?_,
        List.forall_mem_append.mpr ⟨hdone.2.2, List.forall_mem_singleton.mpr hunique⟩⟩
      rw [htypes, hdone.2.1]
      simp only [List.mem_append, List.mem_singleton, or_and_right, exists_or, exists_eq_left,
        or_assoc])
    hdraft ⟨rfl, by simp, by simp⟩
  refine ⟨fun type => ?_, hunique⟩
  have hinitial : type ∈ (Draft.initial d).types ↔
      (∃ e ∈ d.enumTypes, enumOf e = type) ∨ (d.usesDateTime = true ∧ type = dateTimeScalar) := by
    cases huses : d.usesDateTime <;> simp [Draft.initial, huses]
  rw [List.mem_cons, htypes, hinitial, hroot, or_assoc]
  rfl

/-- A type of a schema was registered. -/
theorem mem_registerAll {schema : Schema} {types : List ApiType} {type : ApiType}
    (h : type ∈ (schema.registerAll types).types) : type ∈ schema.types ∨ type ∈ types := by
  unfold Schema.registerAll at h
  induction types generalizing schema with
  | nil => exact .inl h
  | cons u types ih =>
      rcases ih h with h | h
      · unfold Schema.register at h
        split at h
        · obtain ⟨w, hw, hsame⟩ := List.mem_map.mp h
          split at hsame
          · exact .inr (hsame ▸ List.mem_cons_self)
          · exact .inl (hsame ▸ hw)
        · rcases List.mem_append.mp h with h | h
          · exact .inl h
          · exact .inr (List.mem_singleton.mp h ▸ List.mem_cons_self)
      · exact .inr (List.mem_cons_of_mem u h)

/-! ### Which names have the form of names -/

/-- What the API derives names from has the form that they need: the first letter or digit in the
name of each object type is a letter, and the name of each constraint that is not about a single
field is a name. -/
structure SpellsNames (d : Document) : Prop where
  roots : ∀ t ∈ d.objectTypes, Text.startsWithLetter t.name = true
  labels : ∀ t ∈ d.objectTypes, ∀ c ∈ t.options.uniqueConstraints, c.fields.length ≠ 1 →
    ∀ label, c.name = some label → isName label = true

/-- The names of the API that may not have the form of names: the fields of the root for an object
type whose name has no letter first, and the label of a constraint with the name of its nested
input. -/
inductive Misspelled (d : Document) : String → Prop
  | root {t : ObjectType} {name : String} : t ∈ d.objectTypes →
      ¬ Text.startsWithLetter t.name = true → name ∈ rootNames t → Misspelled d name
  | label {t : ObjectType} {c : UniqueConstraint} {label name : String} : t ∈ d.objectTypes →
      c ∈ t.options.uniqueConstraints → c.fields.length ≠ 1 → c.name = some label →
      ¬ isName label = true → name = label ∨ name = nestedInputName t label → Misspelled d name

/-- Dropping later repetitions adds no names. -/
theorem mem_of_mem_distinctNames {names : List String} {name : String}
    (h : name ∈ distinctNames names) : name ∈ names := by
  have hwalk : ∀ (rest done : List String), name ∈ rest.foldl
      (fun done name => if done.contains name then done else done ++ [name]) done →
      name ∈ done ∨ name ∈ rest := by
    intro rest
    induction rest with
    | nil => exact fun done h => .inl h
    | cons first rest ih =>
        intro done h
        rcases ih _ h with h | h
        · dsimp only at h
          split at h
          · exact .inl h
          · rcases List.mem_append.mp h with h | h
            · exact .inl h
            · exact .inr (List.mem_singleton.mp h ▸ List.mem_cons_self)
        · exact .inr (List.mem_cons_of_mem first h)
  exact (hwalk names [] h).resolve_left List.not_mem_nil

/-- The suffix of an operator continues a name. -/
theorem nameChars_suffix (o : Operator) : NameChars o.suffix := by
  cases o <;> decide

section Spelled

variable (hd : d.NamesSpelled) (ht : t ∈ d.objectTypes)
include hd ht

/-- The name of a field of the root has the form of a name where the name of its type has a letter
first. -/
theorem isName_of_mem_rootNames (hletter : Text.startsWithLetter t.name = true) {name : String}
    (hname : name ∈ rootNames t) : isName name = true := by
  have hchars := nameChars_of_isName (hd.objects t ht)
  simp only [rootNames, List.mem_cons, List.not_mem_nil, or_false] at hname
  rcases hname with rfl | rfl
  · exact (Text.isName_lowerCamelCase_iff hchars).mpr hletter
  · exact (Text.isName_lowerCamelCase_iff (Text.nameChars_pluralize hchars)).mpr
      (Text.startsWithLetter_pluralize hletter)

/-- The names in an output type have the form of names. -/
theorem isName_of_objectOf {type : ApiType} (h : objectOf d set t = .ok type) :
    ∀ name ∈ type.names, isName name = true := by
  rw [names_of_objectOf h]
  exact List.forall_mem_cons.mpr ⟨hd.objects t ht, List.forall_mem_map.mpr (hd.fields t ht)⟩

/-- The names in the input for lists have the form of names. -/
theorem isName_of_whereInput {type : ApiType} (h : whereInput t = .ok type) :
    ∀ name ∈ type.names, isName name = true := by
  have hcombinators : ∀ name ∈ combinators, isName name = true := by decide
  rw [of_inputOf_eq_ok h, ApiType.names, whereFields_names]
  refine List.forall_mem_cons.mpr ⟨isName_append (hd.objects t ht) (by decide),
    List.forall_mem_append.mpr ⟨List.forall_mem_map.mpr ?_, hcombinators⟩⟩
  rintro ⟨f, o⟩ hentry
  exact isName_append (hd.fields t ht f (mem_filterEntries.mp hentry).1) (nameChars_suffix o)

/-- The names in the enum of orders have the form of names. -/
theorem isName_of_orderInput? {type : ApiType} (h : orderInput? t = some type) :
    ∀ name ∈ type.names, isName name = true := by
  unfold orderInput? at h
  split at h
  · cases h
  obtain rfl := Option.some.inj h
  refine List.forall_mem_cons.mpr
    ⟨isName_append (hd.objects t ht) (by decide), fun name hname => ?_⟩
  obtain ⟨f, hf, hname⟩ := List.mem_flatMap.mp (mem_of_mem_distinctNames hname)
  have hfield := hd.fields t ht f (List.mem_filter.mp hf).1
  simp only [List.mem_cons, List.not_mem_nil, or_false] at hname
  rcases hname with rfl | rfl
  · exact isName_append hfield (by decide)
  · exact isName_append hfield (by decide)

variable {objectTypes : List ObjectType} {enumTypes : List EnumType}
  (hvalid : Document.validated objectTypes enumTypes = .ok d)
include hvalid

/-- The fields of a constraint have the form of names. -/
theorem isName_of_mem_constraint (hc : c ∈ t.options.uniqueConstraints) :
    ∀ name ∈ c.fields, isName name = true := by
  intro name hname
  obtain ⟨f, hf⟩ := Document.constraintFields_found_of_validated hvalid t ht c hc name hname
  exact ObjectType.name_of_field? hf ▸ hd.fields t ht f (List.mem_of_find?_eq_some hf)

/-- The label of a constraint that is not about a single field has the form of a name, or it is
written so in a directive. -/
theorem isName_label_or (hc : c ∈ t.options.uniqueConstraints) :
    isName c.label = true ∨ c.name = some c.label ∧ ¬ isName c.label = true := by
  cases hname : c.name with
  | none =>
      refine .inl ?_
      rw [UniqueConstraint.label, hname]
      exact isName_intercalate (Document.constraintColumns_of_validated hvalid ht hc).1
        (isName_of_mem_constraint hd ht hvalid hc)
  | some label =>
      have hlabel : c.label = label := by rw [UniqueConstraint.label, hname]; rfl
      rw [hlabel]
      by_cases h : isName label = true
      · exact .inl h
      · exact .inr ⟨rfl, h⟩

/-- The names in the inputs for single rows have the form of names, or they come from the label of a
constraint. -/
theorem isName_or_misspelled_of_uniqueInputs {types : List ApiType} (h : uniqueInputs t = .ok types)
    {type : ApiType} (htype : type ∈ types) :
    ∀ name ∈ type.names, isName name = true ∨ Misspelled d name := by
  obtain ⟨fields, nested, rfl, hfields, hnested⟩ := of_uniqueInputs_eq_ok h
  have hconstraint : ∀ c ∈ t.options.uniqueConstraints, c.fields.length ≠ 1 →
      ∀ name, name = c.label ∨ name = nestedInputName t c.label →
        isName name = true ∨ Misspelled d name := by
    intro c hc hlength name hname
    rcases isName_label_or hd ht hvalid hc with hlabel | ⟨hwritten, hlabel⟩
    · refine .inl ?_
      rcases hname with rfl | rfl
      · exact hlabel
      · refine isName_append (isName_append (hd.objects t ht) ?_) (by decide)
        exact Text.nameChars_upperCamelCase (nameChars_of_isName hlabel)
    · exact .inr (.label ht hc hlength hwritten hlabel hname)
  rcases List.mem_cons.mp htype with rfl | htype
  · refine List.forall_mem_cons.mpr ⟨.inl (isName_append (hd.objects t ht) (by decide)), ?_⟩
    intro name hname
    rcases (hfields name).mp hname with hkey | rfl
    · rcases List.mem_append.mp hkey with hprimary | hkey
      · obtain ⟨f, hf, rfl⟩ : ∃ f, t.primaryKey? = some f ∧ f.name = name := by simpa using hprimary
        exact .inl (hd.fields t ht f (List.mem_of_find?_eq_some hf))
      · obtain ⟨c, hc, rfl⟩ := List.mem_map.mp hkey
        rcases constraintKey_cases c with hsingle | ⟨hlength, hlabel⟩
        · exact .inl (isName_of_mem_constraint hd ht hvalid hc _
            (hsingle ▸ List.mem_singleton_self _))
        · exact hconstraint c hc hlength _ (.inl hlabel)
    · exact .inl (by decide)
  · obtain ⟨c, hc, hlength, hnames⟩ := hnested type htype
    rw [hnames]
    exact List.forall_mem_cons.mpr ⟨hconstraint c hc hlength _ (.inr rfl),
      fun name hname => .inl (isName_of_mem_constraint hd ht hvalid hc name hname)⟩

/-- The names in the types that an object type gives rise to have the form of names, or they come
from the label of a constraint. -/
theorem isName_or_misspelled_of_derives {type : ApiType} (h : Derives d set t type) :
    ∀ name ∈ type.names, isName name = true ∨ Misspelled d name := by
  intro name hname
  cases h with
  | output h => exact .inl (isName_of_objectOf hd ht h name hname)
  | list h => exact .inl (isName_of_whereInput hd ht h name hname)
  | row h htype => exact isName_or_misspelled_of_uniqueInputs hd ht hvalid h htype name hname
  | order h => exact .inl (isName_of_orderInput? hd ht h name hname)

end Spelled

/-- The names in the root are its own, those of its fields, and those of their arguments. -/
theorem of_mem_names_rootType {name : String} (h : name ∈ (rootType d).names) :
    name ∈ ["Query", "where", "orderBy"] ∨ ∃ t ∈ d.objectTypes, name ∈ rootNames t := by
  rcases List.mem_cons.mp h with rfl | h
  · exact .inl List.mem_cons_self
  obtain ⟨f, hf, hname⟩ := List.mem_flatMap.mp h
  obtain ⟨t, ht, hf⟩ := List.mem_flatMap.mp hf
  have hroot : f.name ∈ rootNames t ∧ ∀ a ∈ f.arguments, a.name ∈ ["where", "orderBy"] := by
    simp only [List.mem_cons, List.not_mem_nil, or_false] at hf
    rcases hf with rfl | rfl
    · exact ⟨List.mem_cons_self, by simp [lookupField]⟩
    · refine ⟨List.mem_cons_of_mem _ List.mem_cons_self, ?_⟩
      unfold listingField
      split <;> simp
  rcases List.mem_cons.mp hname with rfl | hname
  · exact .inr ⟨t, ht, hroot.1⟩
  · obtain ⟨a, ha, rfl⟩ := List.mem_map.mp hname
    exact .inl (List.mem_cons_of_mem _ (hroot.2 a ha))

/-- The names in a registered type have the form of names, or they are of those that may not. -/
theorem isName_or_misspelled (hd : d.NamesSpelled) {objectTypes : List ObjectType}
    {enumTypes : List EnumType} (hvalid : Document.validated objectTypes enumTypes = .ok d)
    {registered : List ApiType} (h : Registers d set registered) {type : ApiType}
    (htype : type ∈ registered) : ∀ name ∈ type.names, isName name = true ∨ Misspelled d name := by
  intro name hname
  rcases ((mem_registered_iff h).1 type).mp htype with
    rfl | ⟨e, he, rfl⟩ | ⟨-, rfl⟩ | ⟨t, ht, hderives⟩
  · have hfixed : ∀ name ∈ ["Query", "where", "orderBy"], isName name = true := by decide
    rcases of_mem_names_rootType hname with hname | ⟨t, ht, hname⟩
    · exact .inl (hfixed name hname)
    · by_cases hletter : Text.startsWithLetter t.name = true
      · exact .inl (isName_of_mem_rootNames hd ht hletter hname)
      · exact .inr (.root ht hletter hname)
  · rcases List.mem_cons.mp hname with rfl | hname
    · exact .inl (hd.enums e he)
    · exact .inl (hd.values e he name (mem_of_mem_distinctNames hname))
  · obtain rfl := List.mem_singleton.mp hname
    exact .inl (by decide)
  · exact isName_or_misspelled_of_derives hd ht hvalid hderives name hname

/-- **The names of an API** that is generated for a text have the form of names exactly when the
names that they are derived from have the form that this needs. Of all names only those of fields of
the root for a type whose name has no letter first, the labels of constraints and the names of their
nested inputs may have another form. -/
theorem names_spelled_iff {text : String} {declared : Sdl.Schema}
    (hparse : Sdl.parse text = .ok declared) (hlower : declared.toDocument = .ok d)
    {schema : Schema} (h : Schema.generate d set = .ok schema) :
    ∃ registered, Registers d set registered ∧ schema = Schema.registerAll ⟨[]⟩ registered ∧
      (∀ type ∈ schema.types, type ∈ registered) ∧
      (TypeNamesApart d → schema.types = registered) ∧
      (∀ type ∈ registered, ∀ name ∈ type.names, isName name = true ∨ Misspelled d name) ∧
      ((∀ type ∈ registered, ∀ name ∈ type.names, isName name = true) ↔ SpellsNames d) := by
  have hd := Sdl.namesSpelled_of_toDocument hparse hlower
  have hvalid := (Sdl.of_toDocument hlower).2.2
  obtain ⟨registered, hregistered, rfl, -⟩ := exists_registers h
  obtain ⟨hmem, hunique⟩ := mem_registered_iff hregistered
  have hnames : ∀ type ∈ registered, ∀ name ∈ type.names, isName name = true ∨ Misspelled d name :=
    fun _ htype => isName_or_misspelled hd hvalid hregistered htype
  refine ⟨registered, hregistered, rfl, fun type htype => ?kept, fun hapart => ?all, hnames, ?_, ?_⟩
  case kept => exact (mem_registerAll htype).resolve_left List.not_mem_nil
  case all =>
    have hnodup :=
      (registered_names_nodup_iff (Document.valid_of_validated hvalid) hregistered).mpr hapart
    exact Schema.types_registerAll_iff.mpr hnodup
  · intro hall
    constructor
    case roots =>
      intro t ht
      have hroot : (lookupField t).name ∈ (rootType d).names :=
        List.mem_cons_of_mem _ (List.mem_flatMap.mpr ⟨lookupField t,
          List.mem_flatMap.mpr ⟨t, ht, List.mem_cons_self⟩, List.mem_cons_self⟩)
      exact (Text.isName_lowerCamelCase_iff (nameChars_of_isName (hd.objects t ht))).mp
        (hall _ ((hmem _).mpr (.inl rfl)) _ hroot)
    case labels =>
      intro t ht c hc hlength label hwritten
      obtain ⟨types, htypes⟩ := hunique t ht
      obtain ⟨fields, nested, rfl, hfields, -⟩ := of_uniqueInputs_eq_ok htypes
      have hlabel : constraintKey c = label := by
        rw [((constraintKey_cases c).resolve_left fun h => hlength (by rw [h]; rfl)).2,
          UniqueConstraint.label, hwritten]
        rfl
      have hkey : label ∈ fields.map (·.name) := (hfields label).mpr
        (.inl (List.mem_append_right _ (List.mem_map.mpr ⟨c, hc, hlabel⟩)))
      have hinput : .input (uniqueInputName t) fields ∈ registered :=
        (hmem _).mpr (.inr (.inr (.inr ⟨t, ht, .row htypes List.mem_cons_self⟩)))
      exact hall _ hinput label (List.mem_cons_of_mem _ hkey)
  · intro hspells type htype name hname
    refine (hnames type htype name hname).resolve_right fun hbad => ?_
    cases hbad with
    | root ht hletter _ => exact hletter (hspells.roots _ ht)
    | label ht hc hlength hwritten hlabel _ =>
        exact hlabel (hspells.labels _ ht _ hc hlength _ hwritten)

end Api

/-! ### Points by their coordinates -/

/-- A model of points, of which no two have the same coordinates. The name of that constraint is
left open. -/
def Sdl.pointText (label : String) : String :=
  "type Point @options(constraints:\x7bunique:[\x7bname:\"" ++ label ++
    "\",fields:[\"x\",\"y\"]\x7d]\x7d)\x7bid:ID! x:Int y:Int\x7d"

/-- Points, of which no two have the same coordinates, with a name for that constraint. -/
def Document.points (label : String) : Document where
  objectTypes :=
    [ .of "Point"
        [ { name := "id", typeName := "ID", kind := .scalar .id, required := true },
          { name := "x", typeName := "Int", kind := .scalar .int },
          { name := "y", typeName := "Int", kind := .scalar .int } ]
        { uniqueConstraints := [{ name := some label, fields := ["x", "y"] }] } ]
  enumTypes := []

namespace Api

/-- Where the constraint on points is called `x_y`, all names of their API have the form of
names. -/
theorem point_names_spelled :
    ∃ declared schema, Sdl.parse (Sdl.pointText "x_y") = .ok declared ∧
      declared.toDocument = .ok (.points "x_y") ∧
      Schema.generate (.points "x_y") ⟨[]⟩ = .ok schema ∧
      ∀ type ∈ schema.types, ∀ name ∈ type.names, isName name = true := by
  have hread : (Sdl.parse (Sdl.pointText "x_y")).toOption.bind (·.toDocument.toOption) =
      some (.points "x_y") := by decide +kernel
  obtain ⟨declared, hparse, hlower⟩ := Option.bind_eq_some_iff.mp hread
  rw [Except.toOption_eq_some_iff] at hparse hlower
  obtain ⟨schema, hschema⟩ : ∃ schema, Schema.generate (.points "x_y") ⟨[]⟩ = .ok schema :=
    ⟨_, rfl⟩
  obtain ⟨registered, -, -, hkept, -, -, hiff⟩ := names_spelled_iff hparse hlower hschema
  have hspells : SpellsNames (.points "x_y") :=
    { roots := by decide +kernel
      labels := fun t ht c hc _ label hlabel => by
        obtain rfl := List.mem_singleton.mp ht
        obtain rfl := List.mem_singleton.mp hc
        exact Option.some.inj hlabel ▸ by decide }
  exact ⟨declared, schema, hparse, hlower, hschema,
    fun type htype => hiff.mpr hspells type (hkept type htype)⟩

/-- Where it is called `x-y`, the API is generated with an input field of that name, although the
names in the model have the form of names. The line of that field cannot be split into tokens. -/
theorem point_label_misspelled :
    ∃ declared schema, Sdl.parse (Sdl.pointText "x-y") = .ok declared ∧
      declared.toDocument = .ok (.points "x-y") ∧ (Document.points "x-y").NamesSpelled ∧
      RelationSet.resolve (.points "x-y") = .ok ⟨[]⟩ ∧
      Schema.generate (.points "x-y") ⟨[]⟩ = .ok schema ∧
      ∃ name fields f, .input name fields ∈ schema.types ∧ f ∈ fields ∧ isName f.name = false ∧
        Token.scan Sdl.lexicon (Schema.renderInput f) = none := by
  have hread : (Sdl.parse (Sdl.pointText "x-y")).toOption.bind (·.toDocument.toOption) =
      some (.points "x-y") := by decide +kernel
  obtain ⟨declared, hparse, hlower⟩ := Option.bind_eq_some_iff.mp hread
  rw [Except.toOption_eq_some_iff] at hparse hlower
  refine ⟨declared, _, hparse, hlower, Sdl.namesSpelled_of_toDocument hparse hlower,
    by decide +kernel, rfl, "PointWhereUniqueInput",
    [⟨"id", nullable "ID"⟩, ⟨"x-y", nullable "PointXYUniqueInput"⟩,
      ⟨"_or", nullableList "PointWhereUniqueInput"⟩], _, ?_,
    List.mem_cons_of_mem _ List.mem_cons_self, ?_, ?_⟩
  · decide +kernel
  · decide
  · decide +kernel

end Api

end DataModel
