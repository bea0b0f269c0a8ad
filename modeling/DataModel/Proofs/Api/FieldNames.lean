import DataModel.Proofs.Api.Generation

/-!
# The names of the fields of the API

The API names its fields after declarations: by adding the suffix of an operator, by joining the
fields of a constraint, by putting a type name into the plural. Different declarations can so arrive
at one name, and most of these names are compared with each other only when the type is built, where
a repetition aborts the generation. This module says which declarations lead there.

Only the input for single rows is guarded against repetitions: it drops later keys of a name that
occurred, and refuses a label that is the name of a field.

## Main results

* `uniqueInputs_ends`: when the input for single rows is built, and how it fails otherwise.
* `generate_ends`: **every outcome of generating a schema tells the truth** about the names.
* `generate_aborts_of_names_meet`: **generation is aborted where names meet and nowhere else**, unless
  a label that is the name of a field is reported before it comes to that.
-/

namespace DataModel

namespace Api

variable {d : Document} {set : RelationSet} {t : ObjectType} {c : UniqueConstraint}

/-! ### Names that may not meet -/

/-- The key of a constraint in the input for single rows: its field, or its label where it is not
about a single field. -/
def constraintKey (c : UniqueConstraint) : String :=
  match c.fields with
  | [single] => single
  | _ => c.label

/-- The key of a constraint is its only field, or its label where there is not just one field. -/
theorem constraintKey_cases (c : UniqueConstraint) :
    c.fields = [constraintKey c] ∨ c.fields.length ≠ 1 ∧ constraintKey c = c.label := by
  unfold constraintKey
  split
  case h_1 single hsingle => exact .inl hsingle
  case h_2 hmany =>
    refine .inr ⟨fun h => ?_, rfl⟩
    obtain ⟨single, hsingle⟩ := List.length_eq_one_iff.mp h
    exact hmany single hsingle

/-- The keys of the input for single rows, beside the one that combines. -/
def lookupKeys (t : ObjectType) : List String :=
  (t.primaryKey?.map (·.name)).toList ++ t.options.uniqueConstraints.map constraintKey

/-- The fields of the root for an object type. -/
def rootNames (t : ObjectType) : List String :=
  [Text.lowerCamelCase t.name, Text.lowerCamelCase (pluralize t.name)]

/-- The names that the API derives from the declarations do not meet: the fields of the root, those of
each input for lists, the keys for single rows and the key that combines, and the fields of each
constraint. -/
structure NamesClear (d : Document) : Prop where
  root : (d.objectTypes.flatMap rootNames).Nodup
  lists : ∀ t ∈ d.objectTypes, ((whereFields t).map (·.name)).Nodup
  rows : ∀ t ∈ d.objectTypes, "_or" ∉ lookupKeys t
  constraints : ∀ t ∈ d.objectTypes, ∀ c ∈ t.options.uniqueConstraints, c.fields.Nodup

/-- No label of a constraint that is not about a single field is the name of a field. -/
def LabelsClear (d : Document) : Prop :=
  ∀ t ∈ d.objectTypes, ∀ c ∈ t.options.uniqueConstraints, c.fields.length ≠ 1 →
    t.field? c.label = none

/-- A constraint names no field twice, and its label is free where it stands for a field. -/
structure ConstraintClear (t : ObjectType) (c : UniqueConstraint) : Prop where
  fields : c.fields.Nodup
  label : c.fields.length ≠ 1 → t.field? c.label = none

/-- The inputs of a type have no names that meet. -/
structure TypeClear (t : ObjectType) : Prop where
  lists : ((whereFields t).map (·.name)).Nodup
  rows : "_or" ∉ lookupKeys t
  constraints : ∀ c ∈ t.options.uniqueConstraints, ConstraintClear t c

/-- What a constraint contributes bears its key, and it comes with a nested input unless the
constraint is about a single field. -/
theorem of_constraintInput_eq_ok {part : InputField × Option ApiType}
    (h : constraintInput t c = .ok part) :
    part.1.name = constraintKey c ∧
      ((c.fields.length = 1 ∧ part.2 = none) ∨
        (c.fields.length ≠ 1 ∧
          ∃ nested, nestedInput t c.label c.fields = .ok nested ∧ part.2 = some nested)) := by
  unfold constraintInput at h
  split at h
  case h_1 single hsingle =>
    obtain ⟨f, hf, hpart⟩ := Except.bind_eq_ok_iff.mp h
    obtain rfl := Except.pure_eq_ok_iff.mp hpart
    have hname := of_constraintField_eq_ok hf
    exact ⟨by simp [constraintKey, hsingle, hname], .inl ⟨by simp [hsingle], rfl⟩⟩
  case h_2 hmany =>
    obtain ⟨hlength, hkey⟩ := (constraintKey_cases c).resolve_left (hmany _)
    split at h
    · cases h
    · obtain ⟨nested, hnested, hpart⟩ := Except.bind_eq_ok_iff.mp h
      obtain rfl := Except.pure_eq_ok_iff.mp hpart
      exact ⟨hkey.symm, .inr ⟨hlength, nested, hnested, rfl⟩⟩

/-! ### Building types -/

section Building

variable {P : SchemaError → Prop}

/-- An input type is built when the names of its fields differ. -/
theorem inputOf_ends {name : String} {fields : List InputField}
    (hrepeated : ¬ (fields.map (·.name)).Nodup → ∀ f, P (.repeatedField name f)) :
    (inputOf name fields).Ends (fun _ => (fields.map (·.name)).Nodup) P := by
  have hiff : firstRepeated? [] (fields.map (·.name)) = none ↔ (fields.map (·.name)).Nodup := by
    simp [firstRepeated?_eq_none_iff]
  unfold inputOf
  cases hfirst : firstRepeated? [] (fields.map (·.name)) with
  | none => exact .of_eq_ok rfl (hiff.mp hfirst)
  | some f => exact .error (hrepeated (fun h => by simp [hiff.mpr h] at hfirst) f)

/-- A field is added when its name is new. -/
theorem addField_ends {type : String} {fields : List OutputField} {f : OutputField}
    (hrepeated : f.name ∈ fields.map (·.name) → P (.repeatedField type f.name)) :
    (addField type fields f).Ends
      (fun fields' => f.name ∉ fields.map (·.name) ∧ fields' = fields ++ [f]) P := by
  by_cases hmem : f.name ∈ fields.map (·.name)
  · obtain ⟨g, hg, hname⟩ := List.mem_map.mp hmem
    have hany : fields.any (·.name == f.name) = true :=
      List.any_eq_true.mpr ⟨g, hg, by simpa using hname⟩
    rw [addField, if_pos hany]
    exact .error (hrepeated hmem)
  · exact .of_eq_ok (addField_eq_ok hmem) ⟨hmem, rfl⟩

/-- Adds the field that a constraint names to a nested input. -/
def addNestedField (t : ObjectType) (type : String) (done : List InputField) (name : String) :
    Except SchemaError (List InputField) := do
  let f ← constraintField t name
  if done.any (·.name == f.name) then .error (.repeatedField type f.name)
  else return done ++ [⟨f.name, required (constraintTypeName f)⟩]

/-- A nested input is built field by field. -/
theorem nestedInput_eq (t : ObjectType) (label : String) (fields : List String) :
    nestedInput t label fields = (do
      let fields ← fields.foldlM (addNestedField t (nestedInputName t label)) []
      return .input (nestedInputName t label) fields) := rfl

/-- A field is found under its own name only. -/
theorem exists_constraintField_name {name : String} (h : ∃ f, t.field? name = some f) :
    ∃ f, constraintField t name = .ok f ∧ f.name = name := by
  obtain ⟨f, hf⟩ := h
  exact ⟨f, by simp only [constraintField, hf], ObjectType.name_of_field? hf⟩

/-- A field that is found is added to a nested input when its name is new. -/
theorem addNestedField_ends {type name : String} {done : List InputField}
    (hfield : ∃ f, t.field? name = some f)
    (hrepeated : name ∈ done.map (·.name) → ∀ f, P (.repeatedField type f)) :
    (addNestedField t type done name).Ends
      (fun done' => name ∉ done.map (·.name) ∧
        done'.map (·.name) = done.map (·.name) ++ [name]) P := by
  obtain ⟨f, hfound, hname⟩ := exists_constraintField_name hfield
  have hany : done.any (·.name == f.name) = true ↔ name ∈ done.map (·.name) := by
    simp [hname]
  rw [addNestedField]
  refine .bind (.of_eq_ok (Q := (· = f)) hfound rfl) ?_
  rintro g rfl
  split
  case isTrue hmem => exact .error (hrepeated (hany.mp hmem) g.name)
  case isFalse hnew => exact .pure ⟨fun hmem => hnew (hany.mpr hmem), by simp [hname]⟩

section Constraints

variable (hfields : ∀ name ∈ c.fields, ∃ f, t.field? name = some f)
include hfields

/-- The nested input of a constraint is built when no field is named twice. The fields so far bear
the names that lie behind, and these differ. -/
theorem nestedInput_ends {label : String}
    (hrepeated : ¬ c.fields.Nodup → ∀ f, P (.repeatedField (nestedInputName t label) f)) :
    (nestedInput t label c.fields).Ends (fun _ => c.fields.Nodup) P := by
  rw [nestedInput_eq]
  refine .bind (List.foldlM_ends (fun names done => done.map (·.name) = names ∧ names.Nodup)
    ?_ ⟨rfl, .nil⟩) fun _ h => .pure h.2
  rintro names name rest done hl ⟨rfl, hnodup⟩
  refine (addNestedField_ends (hfields name (by simp [hl])) fun hmem => hrepeated fun h => ?_).imp ?_
  · rw [hl, List.nodup_append] at h
    exact h.2.2 name hmem name List.mem_cons_self rfl
  · rintro done' ⟨hnew, hnames⟩
    exact ⟨hnames, List.nodup_append_singleton_iff.mpr ⟨hnew, hnodup⟩⟩

/-- What a constraint contributes to the input for single rows bears its key, and is there when the
names of the constraint are clear. -/
theorem constraintInput_ends (hrepeated : ¬ c.fields.Nodup → ∀ type f, P (.repeatedField type f))
    (hlabel : c.fields.length ≠ 1 → t.field? c.label ≠ none → P (.labelCollision c.label t.name)) :
    (constraintInput t c).Ends
      (fun p => p.1.name = constraintKey c ∧ ConstraintClear t c) P := by
  unfold constraintInput
  split
  case h_1 single hsingle =>
    obtain ⟨f, hfound, hname⟩ := exists_constraintField_name (hfields single (by simp [hsingle]))
    refine .bind (.of_eq_ok (Q := (· = f)) hfound rfl) ?_
    rintro g rfl
    exact .pure ⟨by simp [constraintKey, hsingle, hname], by simp [hsingle], by simp [hsingle]⟩
  case h_2 hmany =>
    obtain ⟨hlength, hkey⟩ := (constraintKey_cases c).resolve_left (hmany _)
    split
    case isTrue hsome => exact .error (hlabel hlength (Option.isSome_iff_ne_none.mp hsome))
    case isFalse hnone =>
      have hfree : t.field? c.label = none := by simpa using hnone
      refine (nestedInput_ends hfields fun h f => hrepeated h _ f).bind fun _ hnodup => ?_
      exact .pure ⟨hkey.symm, hnodup, fun _ => hfree⟩

end Constraints

/-- What the constraints contribute bears their keys in order, and is there when the names of each
constraint are clear. -/
theorem constraintInputs_ends {cs : List UniqueConstraint}
    (hfields : ∀ c ∈ cs, ∀ name ∈ c.fields, ∃ f, t.field? name = some f)
    (hrepeated : ∀ c ∈ cs, ¬ c.fields.Nodup → ∀ type f, P (.repeatedField type f))
    (hlabel : ∀ c ∈ cs, c.fields.length ≠ 1 → t.field? c.label ≠ none →
      P (.labelCollision c.label t.name)) :
    (cs.mapM (constraintInput t)).Ends
      (fun parts => (parts.map (·.1)).map (·.name) = cs.map constraintKey ∧
        ∀ c ∈ cs, ConstraintClear t c) P := by
  refine (List.mapM_ends fun c hc => constraintInput_ends (hfields c hc) (hrepeated c hc)
    (hlabel c hc)).imp fun parts hparts => ?_
  clear hfields hrepeated hlabel
  induction hparts with
  | nil => simp
  | cons h _ ih =>
      refine ⟨?_, List.forall_mem_cons.mpr ⟨h.2, ih.2⟩⟩
      rw [List.map_cons, List.map_cons, List.map_cons, h.1, ih.1]

/-- Adds an input field unless its name occurred. -/
def addDistinct (done : List InputField) (f : InputField) : List InputField :=
  if done.any (·.name == f.name) then done else done ++ [f]

/-- Adding a field unless its name occurred keeps the names different and adds its name. -/
theorem addDistinct_names {done : List InputField} (hdone : (done.map (·.name)).Nodup)
    (f : InputField) :
    ((addDistinct done f).map (·.name)).Nodup ∧
      ∀ n, n ∈ (addDistinct done f).map (·.name) ↔ n ∈ done.map (·.name) ∨ n = f.name := by
  have hany : done.any (·.name == f.name) = true ↔ f.name ∈ done.map (·.name) := by simp
  unfold addDistinct
  split
  case isTrue hmem =>
    refine ⟨hdone, fun n => ⟨.inl, ?_⟩⟩
    rintro (h | rfl)
    · exact h
    · exact hany.mp hmem
  case isFalse hnew =>
    rw [List.map_append, List.map_singleton]
    exact ⟨List.nodup_append_singleton_iff.mpr ⟨fun hmem => hnew (hany.mpr hmem), hdone⟩, by simp⟩

/-- Dropping repetitions leaves fields of different names, and all the names. -/
theorem distinctFields_names (fields : List InputField) :
    ((distinctFields fields).map (·.name)).Nodup ∧
      ∀ n, n ∈ (distinctFields fields).map (·.name) ↔ n ∈ fields.map (·.name) := by
  suffices walk : ∀ (rest done : List InputField), (done.map (·.name)).Nodup →
      ((rest.foldl addDistinct done).map (·.name)).Nodup ∧
        ∀ n, n ∈ (rest.foldl addDistinct done).map (·.name) ↔
          n ∈ done.map (·.name) ∨ n ∈ rest.map (·.name) by
    obtain ⟨hnodup, hmem⟩ := walk fields [] .nil
    exact ⟨hnodup, fun n => (hmem n).trans (or_iff_right List.not_mem_nil)⟩
  intro rest
  induction rest with
  | nil => exact fun done hdone => ⟨hdone, by simp⟩
  | cons f rest ih =>
      intro done hdone
      obtain ⟨hnodup, hmem⟩ := addDistinct_names hdone f
      obtain ⟨hnodup', hmem'⟩ := ih (addDistinct done f) hnodup
      refine ⟨hnodup', fun n => (hmem' n).trans ?_⟩
      rw [hmem, List.map_cons, List.mem_cons, or_assoc]

/-- A field after fields without repetitions repeats a name when it occurred among them. -/
theorem nodup_distinctFields_append_iff {fields : List InputField} {f : InputField} :
    ((distinctFields fields ++ [f]).map (·.name)).Nodup ↔ f.name ∉ fields.map (·.name) := by
  obtain ⟨hdistinct, hmem⟩ := distinctFields_names fields
  rw [List.map_append, List.map_singleton, List.nodup_append_singleton_iff, hmem]
  exact and_iff_left hdistinct

/-- **The input for single rows** is built when none of its keys is the one that combines and the
names of every constraint are clear. -/
theorem uniqueInputs_ends
    (hfields : ∀ c ∈ t.options.uniqueConstraints, ∀ name ∈ c.fields, ∃ f, t.field? name = some f)
    (hrepeated : ∀ c ∈ t.options.uniqueConstraints, ¬ c.fields.Nodup →
      ∀ type f, P (.repeatedField type f))
    (hlabel : ∀ c ∈ t.options.uniqueConstraints, c.fields.length ≠ 1 → t.field? c.label ≠ none →
      P (.labelCollision c.label t.name))
    (hor : "_or" ∈ lookupKeys t → ∀ type f, P (.repeatedField type f)) :
    (uniqueInputs t).Ends
      (fun _ => "_or" ∉ lookupKeys t ∧ ∀ c ∈ t.options.uniqueConstraints, ConstraintClear t c) P := by
  refine (constraintInputs_ends hfields hrepeated hlabel).bind
    fun (parts : List (InputField × Option ApiType)) ⟨hparts, hclear⟩ => ?_
  have hkeys : (keyFields t ++ parts.map (·.1)).map (·.name) = lookupKeys t := by
    rw [List.map_append, keyFields_names, hparts, lookupKeys]
  refine (inputOf_ends fun h f => hor ?_ _ f).bind fun _ h => .pure ⟨?_, hclear⟩
  · rw [nodup_distinctFields_append_iff, hkeys] at h
    exact not_not.mp h
  · rw [nodup_distinctFields_append_iff, hkeys] at h
    exact h

end Building

/-! ### The whole schema -/

/-- The error says what is wrong with the document. -/
def SchemaError.Explains (d : Document) : SchemaError → Prop
  | .noObjectTypes => d.objectTypes = []
  | .repeatedField .. => ¬ NamesClear d
  | .labelCollision .. => ¬ LabelsClear d
  | .invalidTypes _ => NamesClear d ∧ LabelsClear d
  | .unresolvedRelation .. | .missingPrimaryKey .. | .unknownConstraintField .. => False

/-- The names of the types that lie behind are clear, and the root of the draft has their fields. -/
structure DraftClear (done : List ObjectType) (draft : Draft) : Prop where
  types : ∀ t ∈ done, TypeClear t
  rootFields : draft.rootFields.map (·.name) = done.flatMap rootNames
  nodup : (done.flatMap rootNames).Nodup

section Schema

variable (hresolves : set.Resolves d)
  (hconstraints : ∀ t ∈ d.objectTypes, ∀ c ∈ t.options.uniqueConstraints, ∀ name ∈ c.fields,
    ∃ f, t.field? name = some f)
include hresolves hconstraints

/-- An object type is added to a draft when the names of its inputs are clear and those of its root
fields are new. -/
theorem addObjectType_ends {done rest : List ObjectType} (hl : d.objectTypes = done ++ t :: rest)
    {draft : Draft} (hdraft : DraftClear done draft) :
    (draft.addObjectType d set t).Ends (DraftClear (done ++ [t])) (·.Explains d) := by
  have ht : t ∈ d.objectTypes := by simp [hl]
  have hroot : NamesClear d →
      (done.flatMap rootNames ++ [(lookupField t).name] ++ [(listingField t).name]).Nodup := by
    intro h
    have hnodup := h.root
    rw [hl, List.flatMap_append, List.flatMap_cons, ← List.append_assoc] at hnodup
    rw [List.append_assoc]
    exact (List.nodup_append.mp hnodup).1
  obtain ⟨fields, hobject⟩ := exists_objectOf hresolves ht
  unfold Draft.addObjectType
  refine .bind (.of_eq_ok (Q := fun _ => True) hobject trivial) fun object _ => ?_
  refine .bind (inputOf_ends fun h _ hclear => h (hclear.lists t ht)) fun list hlists => ?_
  refine .bind (uniqueInputs_ends (hconstraints t ht)
    (fun c hc h _ _ hclear => h (hclear.constraints t ht c hc))
    (fun c hc hlength hsome hclear => hsome (hclear t ht c hc hlength))
    (fun h _ _ hclear => hclear.rows t ht h)) fun unique ⟨hrows, hclear⟩ => ?_
  -- the two root fields are added one after the other, the second to what the first left
  refine .bind (addField_ends fun hmem hclear => ?_) fun lookups ⟨hlookup, hlookups⟩ => ?_
  · have hnodup := (List.nodup_append_singleton_iff.mp (hroot hclear)).2
    exact (List.nodup_append_singleton_iff.mp hnodup).1 (hdraft.rootFields ▸ hmem)
  have hlookups : lookups.map (·.name) = done.flatMap rootNames ++ [(lookupField t).name] := by
    rw [hlookups, List.map_append, hdraft.rootFields, List.map_singleton]
  refine .bind (addField_ends fun hmem hclear => ?_) fun listings ⟨hlisting, hlistings⟩ => ?_
  · exact (List.nodup_append_singleton_iff.mp (hroot hclear)).1 (hlookups ▸ hmem)
  rw [hdraft.rootFields] at hlookup
  rw [hlookups] at hlisting
  have hnames : (done ++ [t]).flatMap rootNames =
      done.flatMap rootNames ++ [(lookupField t).name] ++ [(listingField t).name] := by
    simp [rootNames, lookupField, listingField]
  refine .pure ⟨?_, ?_, ?_⟩
  · exact List.forall_mem_append.mpr
      ⟨hdraft.types, List.forall_mem_singleton.mpr ⟨hlists, hrows, hclear⟩⟩
  · rw [hnames, hlistings, List.map_append, hlookups, List.map_singleton]
  · have hnodup := List.nodup_append_singleton_iff.mpr ⟨hlookup, hdraft.nodup⟩
    exact hnames ▸ List.nodup_append_singleton_iff.mpr ⟨hlisting, hnodup⟩

/-- **Every outcome of generating a schema tells the truth.** A schema, or a fault of its types, comes
out only where all names are clear; otherwise the error names a clash that is there. -/
theorem generate_ends :
    (Schema.generate d set).Ends (fun _ => NamesClear d ∧ LabelsClear d) (·.Explains d) := by
  unfold Schema.generate
  split
  case isTrue hempty => exact .error (by simpa [SchemaError.Explains] using hempty)
  case isFalse =>
    have hwalk : (d.objectTypes.foldlM (Draft.addObjectType d set) (.initial d)).Ends
        (DraftClear d.objectTypes) (·.Explains d) :=
      List.foldlM_ends DraftClear
        (fun _ _ _ _ hl hdraft => addObjectType_ends hresolves hconstraints hl hdraft)
        ⟨by simp, rfl, .nil⟩
    refine hwalk.bind fun draft hdraft => ?_
    have hnames : NamesClear d :=
      { root := hdraft.nodup
        lists := fun t ht => (hdraft.types t ht).lists
        rows := fun t ht => (hdraft.types t ht).rows
        constraints := fun t ht c hc => ((hdraft.types t ht).constraints c hc).fields }
    have hlabels : LabelsClear d := fun t ht c hc => ((hdraft.types t ht).constraints c hc).label
    split
    · exact .pure ⟨hnames, hlabels⟩
    · exact .error ⟨hnames, hlabels⟩

end Schema

/-- **Generation is aborted where names meet and nowhere else**, for an accepted document with its own
relations. Where names meet, the one thing that can be reported before it comes to that is a label
that is the name of a field. -/
theorem generate_aborts_of_names_meet {objectTypes : List ObjectType} {enumTypes : List EnumType}
    (hd : Document.validated objectTypes enumTypes = .ok d) (h : RelationSet.resolve d = .ok set) :
    (NamesClear d → ∀ type f, Schema.generate d set ≠ .error (.repeatedField type f)) ∧
      (¬ NamesClear d → (∃ type f, Schema.generate d set = .error (.repeatedField type f)) ∨
        ¬ LabelsClear d ∧
          ∃ label type, Schema.generate d set = .error (.labelCollision label type)) := by
  have hset := RelationSet.resolves_of_resolve hd h
  obtain ⟨hok, hfails⟩ := generate_ends hset (Document.constraintFields_found_of_validated hd)
  refine ⟨fun hclear type f herror => hfails _ herror hclear, fun hmeet => ?_⟩
  cases hgenerate : Schema.generate d set with
  | ok schema => exact absurd (hok schema hgenerate).1 hmeet
  | error e =>
      have he := hfails e hgenerate
      cases e with
      | repeatedField type f => exact .inl ⟨type, f, rfl⟩
      | labelCollision label type => exact .inr ⟨he, label, type, rfl⟩
      | invalidTypes => exact absurd he.1 hmeet
      | noObjectTypes =>
          have hempty : d.objectTypes = [] := he
          exact absurd ⟨by simp [hempty], by simp [hempty], by simp [hempty], by simp [hempty]⟩ hmeet
      | unresolvedRelation | missingPrimaryKey | unknownConstraintField => exact he.elim

end Api

/-- No names meet in the directory, so generating its schema is not aborted. -/
theorem Api.directory_not_aborted :
    NamesClear .directory ∧
      ∀ type f, Schema.generate .directory .directory ≠ .error (.repeatedField type f) := by
  have hd : Document.validated Document.directory.objectTypes Document.directory.enumTypes =
      .ok .directory := by decide +kernel
  have h : RelationSet.resolve .directory = .ok .directory := by decide +kernel
  have hclear : NamesClear .directory :=
    { root := by decide +kernel
      lists := by decide +kernel
      rows := by decide +kernel
      constraints := by decide +kernel }
  exact ⟨hclear, (generate_aborts_of_names_meet hd h).1 hclear⟩

/-- A catalog of products, each with a price and a price bound that is named like a condition on the
price. -/
def Document.catalog : Document where
  objectTypes :=
    [ .of "Product"
        [ { name := "id", typeName := "ID", kind := .scalar .id, required := true },
          { name := "price", typeName := "Float", kind := .scalar .float },
          { name := "price_lt", typeName := "Float", kind := .scalar .float } ] {} ]
  enumTypes := []

/-- Generating the schema of the catalog is aborted, although the catalog is accepted and resolved:
the input for lists would have two fields of one name. -/
theorem Api.catalog_aborted :
    Document.validated Document.catalog.objectTypes [] = .ok .catalog ∧
      RelationSet.resolve .catalog = .ok ⟨[]⟩ ∧
      Schema.generate .catalog ⟨[]⟩ = .error (.repeatedField "ProductWhereInput" "price_lt") := by
  refine ⟨by decide +kernel, by decide +kernel, ?_⟩
  decide +kernel

end DataModel
