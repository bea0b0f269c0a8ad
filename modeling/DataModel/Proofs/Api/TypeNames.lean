import DataModel.Proofs.Api.FieldNames
import DataModel.Text.Affix
import Mathlib.Data.List.Perm.Basic

/-!
# The names of the types of the API

The types of the API share one space of names: the root, the enum and object types that a document
declares, the scalar for dates, and the inputs that are named after object types. A document is
checked for declared names that repeat, and a schema for names of built-in scalars. Nobody compares
derived names with declared ones or with each other, and a type that is registered under a name that
is taken silently replaces the earlier one.

Derived names differ in their endings, with one exception. What stands before `UniqueInput` is the
name of a type followed by `Where` or by the label of a constraint, and labels lose their spelling
there: `full_name` and `fullName` both become `FullName`.

## Main results

* `Schema.types_registerAll_iff`: registering types keeps all of them exactly when their names
  differ.
* `of_addObjectType_eq_ok`: the names of the types that an object type gives rise to.
* `typeNames_nodup_iff`: **the types of an API have different names exactly when no derived or
  reserved name is declared and no two inputs for single rows share a stem**, and none has the name
  of a built-in scalar.
-/

open scoped List

namespace DataModel

/-- Texts with endings of which neither is an ending of the other one differ. -/
theorem Text.append_ne_append {s t x y : String} (hxy : ¬ x.toList <:+ y.toList)
    (hyx : ¬ y.toList <:+ x.toList) : s ++ x ≠ t ++ y := by
  intro h
  have hx : x.toList <:+ (s ++ x).toList := ⟨s.toList, by simp⟩
  have hy : y.toList <:+ (s ++ x).toList := ⟨t.toList, by simp [h]⟩
  exact (List.suffix_or_suffix_of_suffix hx hy).elim hxy hyx

namespace Api

/-! ### Registration -/

namespace Schema

variable {s : Schema} {t : ApiType}

/-- The names of the types of a schema. -/
def typeNames (s : Schema) : List String := s.types.map (·.name)

/-- A type under a new name comes last. -/
theorem register_of_notMem (h : t.name ∉ s.typeNames) : s.register t = ⟨s.types ++ [t]⟩ := by
  refine if_neg fun hany => h ?_
  obtain ⟨u, hu, hname⟩ := List.any_eq_true.mp hany
  exact List.mem_map.mpr ⟨u, hu, by simpa using hname⟩

/-- A type under a name that is taken changes no names. -/
theorem typeNames_register_of_mem (h : t.name ∈ s.typeNames) :
    (s.register t).typeNames = s.typeNames := by
  obtain ⟨u, hu, hname⟩ := List.mem_map.mp h
  have hany : s.types.any (·.name == t.name) = true :=
    List.any_eq_true.mpr ⟨u, hu, by simpa using hname⟩
  rw [register, if_pos hany, typeNames, typeNames, List.map_map]
  refine List.map_congr_left fun u _ => ?_
  by_cases hsame : u.name = t.name <;> simp [hsame]

/-- Registering a type adds its name, once. -/
theorem typeNames_register (hs : s.typeNames.Nodup) :
    (s.register t).typeNames.Nodup ∧
      ∀ n, n ∈ (s.register t).typeNames ↔ n ∈ s.typeNames ∨ n = t.name := by
  by_cases h : t.name ∈ s.typeNames
  · rw [typeNames_register_of_mem h]
    refine ⟨hs, fun n => ⟨.inl, ?_⟩⟩
    rintro (hn | rfl)
    · exact hn
    · exact h
  · rw [register_of_notMem h, typeNames, List.map_append, List.map_singleton]
    exact ⟨List.nodup_append_singleton_iff.mpr ⟨h, hs⟩, by simp [typeNames]⟩

/-- The schema after the registration of types in order. -/
def registerAll (s : Schema) (types : List ApiType) : Schema := types.foldl register s

/-- Registering types adds their names, each once. -/
theorem typeNames_registerAll (hs : s.typeNames.Nodup) (types : List ApiType) :
    (s.registerAll types).typeNames.Nodup ∧ ∀ n, n ∈ (s.registerAll types).typeNames ↔
      n ∈ s.typeNames ∨ n ∈ types.map (·.name) := by
  unfold registerAll
  induction types generalizing s with
  | nil => exact ⟨hs, by simp⟩
  | cons t types ih =>
      obtain ⟨hnodup, hmem⟩ := typeNames_register hs (t := t)
      obtain ⟨hnodup', hmem'⟩ := ih hnodup
      refine ⟨hnodup', fun n => (hmem' n).trans ?_⟩
      rw [hmem, List.map_cons, List.mem_cons, or_assoc]

/-- Types under new names that differ are all kept. -/
theorem registerAll_of_nodup {types : List ApiType}
    (h : (s.typeNames ++ types.map (·.name)).Nodup) :
    s.registerAll types = ⟨s.types ++ types⟩ := by
  unfold registerAll
  induction types generalizing s with
  | nil => simp
  | cons t types ih =>
      have hnew : t.name ∉ s.typeNames := fun hmem =>
        (List.nodup_append.mp h).2.2 _ hmem _ List.mem_cons_self rfl
      rw [List.foldl_cons, register_of_notMem hnew, ih (by simpa [typeNames] using h)]
      simp

/-- **Registering types keeps all of them** exactly when their names differ. -/
theorem types_registerAll_iff {types : List ApiType} :
    (registerAll ⟨[]⟩ types).types = types ↔ (types.map (·.name)).Nodup := by
  constructor
  · intro h
    have hnodup := (typeNames_registerAll (s := ⟨[]⟩) .nil types).1
    rwa [typeNames, h] at hnodup
  · intro h
    rw [registerAll_of_nodup (by simpa [typeNames] using h)]
    rfl

end Schema

/-! ### The names of derived types -/

variable {d : Document} {set : RelationSet} {t : ObjectType} {c : UniqueConstraint}

/-- The label under which a constraint has a nested input: its own, unless it is about a single
field. -/
def nestedLabel? (c : UniqueConstraint) : Option String :=
  if c.fields.length = 1 then none else some c.label

/-- The stems of the inputs for single rows of a type, which are what stands before `UniqueInput` in
their names. -/
def uniqueStems (t : ObjectType) : List String :=
  (t.name ++ "Where") ::
    (t.options.uniqueConstraints.filterMap nestedLabel?).map (t.name ++ Text.upperCamelCase ·)

/-- The name of the enum of orders of a type, if it has one. -/
def orderName? (t : ObjectType) : Option String := (orderInput? t).map (·.name)

/-- The enum of orders has one name only. -/
theorem orderName?_eq_some {name : String} (h : orderName? t = some name) :
    name = orderInputName t := by
  unfold orderName? orderInput? at h
  split at h
  · cases h
  · exact (Option.some.inj h).symm

/-- The names that the API derives from the name of an object type. -/
def derivedNames (t : ObjectType) : List String :=
  whereInputName t :: ((uniqueStems t).map (· ++ "UniqueInput") ++ (orderName? t).toList)

/-- The name of an input type. -/
theorem name_of_inputOf {name : String} {fields : List InputField} {type : ApiType}
    (h : inputOf name fields = .ok type) : type.name = name := by
  rw [of_inputOf_eq_ok h]
  rfl

/-- The name of an output type. -/
theorem name_of_objectOf {type : ApiType} (h : objectOf d set t = .ok type) :
    type.name = t.name := by
  obtain ⟨fields, rfl, -⟩ := of_objectOf_eq_ok h
  rfl

/-- A constraint has a nested input where it has a label for one, and it is named after the label.
-/
theorem nestedName_of_constraintInput {part : InputField × Option ApiType}
    (h : constraintInput t c = .ok part) :
    part.2.map (·.name) = (nestedLabel? c).map (nestedInputName t) := by
  rcases (of_constraintInput_eq_ok h).2 with ⟨hlength, hnone⟩ | ⟨hlength, nested, hnested, hsome⟩
  · rw [hnone, nestedLabel?, if_pos hlength]
    rfl
  · obtain ⟨fields, -, htype⟩ := Except.bind_eq_ok_iff.mp hnested
    rw [hsome, nestedLabel?, if_neg hlength, ← Except.pure_eq_ok_iff.mp htype]
    rfl

/-- The names of the inputs for single rows are their stems with one ending. -/
theorem names_of_uniqueInputs {types : List ApiType} (h : uniqueInputs t = .ok types) :
    types.map (·.name) = (uniqueStems t).map (· ++ "UniqueInput") := by
  obtain ⟨parts, hparts, h⟩ := Except.bind_eq_ok_iff.mp h
  obtain ⟨input, hinput, htypes⟩ := Except.bind_eq_ok_iff.mp h
  have hunique : uniqueInputName t = t.name ++ "Where" ++ "UniqueInput" := by
    rw [String.append_assoc]
    rfl
  have hnested : parts.filterMap (fun part => part.2.map (·.name)) =
      t.options.uniqueConstraints.filterMap fun c => (nestedLabel? c).map (nestedInputName t) :=
    List.filterMap_eq_of_mapM_eq_ok hparts fun c _ part hpart =>
      nestedName_of_constraintInput hpart
  rw [← Except.pure_eq_ok_iff.mp htypes, List.map_cons, name_of_inputOf hinput,
    hunique, List.map_filterMap, hnested, uniqueStems, List.map_cons, List.map_map,
    List.map_filterMap]
  rfl

/-- **An object type gives rise to** its output type and the types that are named after it. -/
theorem of_addObjectType_eq_ok {draft draft' : Draft}
    (h : draft.addObjectType d set t = .ok draft') :
    draft'.types.map (·.name) = draft.types.map (·.name) ++ t.name :: derivedNames t := by
  simp only [Draft.addObjectType, Except.bind_eq_ok_iff, Except.pure_eq_ok_iff] at h
  obtain ⟨object, hobject, list, hlist, unique, hunique, _, -, _, -, rfl⟩ := h
  have hnames := names_of_uniqueInputs hunique
  have horder : (orderInput? t).toList.map (·.name) = (orderName? t).toList := by
    unfold orderName?
    cases orderInput? t <;> rfl
  simp only [List.map_append, List.map_cons, name_of_objectOf hobject, name_of_inputOf hlist,
    hnames, horder, derivedNames]
  simp

/-! ### All types -/

/-- The types that generating the API registers, in order: the root, and those of the draft that the
object types give rise to. -/
def Registers (d : Document) (set : RelationSet) (registered : List ApiType) : Prop :=
  ∃ draft : Draft, d.objectTypes.foldlM (Draft.addObjectType d set) (.initial d) = .ok draft ∧
    registered = .object queryRoot draft.rootFields :: draft.types

/-- The names that the API reserves: the root and, where it is used, the scalar for dates. -/
def reservedNames (d : Document) : List String :=
  queryRoot :: if d.usesDateTime then [dateTimeName] else []

/-- No two types of the API have one name. -/
structure TypeNamesApart (d : Document) : Prop where
  /-- No declared name is reserved. -/
  reserved : ∀ name ∈ reservedNames d, name ∉ d.typeNames
  /-- No declared name is derived from a type. -/
  derived : ∀ t ∈ d.objectTypes, ∀ name ∈ derivedNames t, name ∉ d.typeNames
  /-- No two inputs for single rows have one stem. -/
  stems : (d.objectTypes.flatMap uniqueStems).Nodup

/-- A schema that is generated comes from registering types, none of which has the name of a
built-in scalar. -/
theorem exists_registers {schema : Schema} (h : Schema.generate d set = .ok schema) :
    ∃ registered, Registers d set registered ∧ schema = Schema.registerAll ⟨[]⟩ registered ∧
      ∀ type ∈ registered, type.name ∉ builtInScalars := by
  unfold Schema.generate at h
  split at h
  · cases h
  · obtain ⟨draft, hdraft, h⟩ := Except.bind_eq_ok_iff.mp h
    split at h
    case h_2 => cases h
    case h_1 hfaults =>
      obtain rfl := Except.pure_eq_ok_iff.mp h
      refine ⟨_, ⟨draft, hdraft, rfl⟩, rfl, fun type htype hbuiltIn => ?_⟩
      have hname : type.name ∈ draft.toSchema.typeNames :=
        ((Schema.typeNames_registerAll (s := ⟨[]⟩) .nil _).2 _).mpr
          (.inr (List.mem_map_of_mem htype))
      have hfault : TypeFault.alreadyExists type.name ∈ draft.toSchema.faults := by
        simp only [Schema.faults, List.mem_append]
        exact .inl (.inl (.inl (.inl (List.mem_map_of_mem
          (List.mem_filter.mpr ⟨hname, List.contains_iff_mem.mpr hbuiltIn⟩)))))
      rw [hfaults] at hfault
      exact List.not_mem_nil hfault

/-- The names of the registered types: reserved, declared and derived ones. -/
theorem registered_names_perm {registered : List ApiType} (h : Registers d set registered) :
    registered.map (·.name) ~
      reservedNames d ++ d.typeNames ++ d.objectTypes.flatMap derivedNames := by
  obtain ⟨draft, hdraft, rfl⟩ := h
  have hwalk : draft.types.map (·.name) = (Draft.initial d).types.map (·.name) ++
      d.objectTypes.flatMap fun t => t.name :: derivedNames t :=
    List.foldlM_invariant
      (fun (done : List ObjectType) (draft : Draft) =>
        draft.types.map (·.name) = (Draft.initial d).types.map (·.name) ++
          done.flatMap fun t => t.name :: derivedNames t)
      (fun done t _ _ _ _ hnames hs => by
        rw [of_addObjectType_eq_ok hs, hnames]
        simp)
      hdraft (by simp)
  have hinitial : (Draft.initial d).types.map (·.name) =
      d.enumTypes.map (·.name) ++ if d.usesDateTime then [dateTimeName] else [] := by
    cases huses : d.usesDateTime <;>
      simp [Draft.initial, huses, dateTimeScalar, enumOf, ApiType.name, Function.comp_def]
  have hobjects : d.objectTypes.flatMap (fun t => t.name :: derivedNames t) ~
      d.objectTypes.map (·.name) ++ d.objectTypes.flatMap derivedNames :=
    (List.map_append_flatMap_perm ..).symm
  rw [List.map_cons, hwalk, hinitial, reservedNames, Document.typeNames]
  refine List.Perm.cons _ ((hobjects.append_left _).trans (List.perm_iff_count.mpr fun name => ?_))
  simp only [List.append_eq, List.count_append]
  omega

/-- **Derived names differ** exactly when the stems of the inputs for single rows do: names with
other endings are told apart by the types that they come from. -/
theorem derivedNames_nodup_iff (hnames : (d.objectTypes.map (·.name)).Nodup) :
    (d.objectTypes.flatMap derivedNames).Nodup ↔ (d.objectTypes.flatMap uniqueStems).Nodup := by
  have htypes : d.objectTypes.Nodup := .of_map _ hnames
  have hlists : (d.objectTypes.map whereInputName).Nodup := by
    refine htypes.map_on fun t ht u hu heq => List.eq_of_map_nodup hnames ht hu ?_
    exact (String.append_left_inj _).mp heq
  have horders : (d.objectTypes.filterMap orderName?).Nodup := by
    refine (List.nodup_filterMap_iff htypes).mpr fun t ht u hu name htn hun => ?_
    refine List.eq_of_map_nodup hnames ht hu ?_
    have heq := (orderName?_eq_some htn).symm.trans (orderName?_eq_some hun)
    exact (String.append_left_inj _).mp heq
  have hrows : ((d.objectTypes.flatMap uniqueStems).map (· ++ "UniqueInput")).Nodup ↔
      (d.objectTypes.flatMap uniqueStems).Nodup :=
    List.nodup_map_iff fun _ _ => (String.append_left_inj _).mp
  have hperm : d.objectTypes.flatMap derivedNames ~ d.objectTypes.map whereInputName ++
      ((d.objectTypes.flatMap uniqueStems).map (· ++ "UniqueInput") ++
        d.objectTypes.filterMap orderName?) := by
    rw [List.map_flatMap, List.filterMap_eq_flatMap_toList]
    refine .trans ?_ ((List.flatMap_append_perm ..).symm.append_left _)
    exact (List.map_append_flatMap_perm ..).symm
  -- what is left is that names with different endings differ, ending by ending
  rw [hperm.nodup_iff, List.nodup_append, List.nodup_append, hrows]
  refine ⟨fun h => h.2.1.1, fun h => ⟨hlists, ⟨h, horders, ?_⟩, ?_⟩⟩
  · intro row hrow order horder
    obtain ⟨stem, -, rfl⟩ := List.mem_map.mp hrow
    obtain ⟨t, -, ht⟩ := List.mem_filterMap.mp horder
    rw [orderName?_eq_some ht]
    exact Text.append_ne_append (by decide) (by decide)
  · intro list hlist name hname
    obtain ⟨t, -, rfl⟩ := List.mem_map.mp hlist
    rcases List.mem_append.mp hname with hrow | horder
    · obtain ⟨stem, -, rfl⟩ := List.mem_map.mp hrow
      exact Text.append_ne_append (by decide) (by decide)
    · obtain ⟨u, -, hu⟩ := List.mem_filterMap.mp horder
      rw [orderName?_eq_some hu]
      exact Text.append_ne_append (by decide) (by decide)

/-- Derived names are those of inputs. -/
theorem input_suffix_of_mem_derivedNames {name : String} (h : name ∈ derivedNames t) :
    "Input".toList <:+ name.toList := by
  have hending : ∀ {x y : String}, "Input".toList <:+ y.toList →
      "Input".toList <:+ (x ++ y).toList := fun {x y} hy => by
    rw [String.toList_append]
    exact hy.trans (List.suffix_append ..)
  rcases List.mem_cons.mp h with rfl | h
  · exact hending (by decide)
  rcases List.mem_append.mp h with hrow | horder
  · obtain ⟨stem, -, rfl⟩ := List.mem_map.mp hrow
    exact hending (by decide)
  · rw [orderName?_eq_some (Option.mem_toList.mp horder)]
    exact hending (by decide)

/-- Reserved names differ from each other and from derived names. -/
theorem reservedNames_clear (d : Document) :
    (reservedNames d).Nodup ∧ ∀ name ∈ reservedNames d, ¬ "Input".toList <:+ name.toList := by
  unfold reservedNames
  cases d.usesDateTime <;> decide

/-- **The registered types have different names** exactly when no derived or reserved name is
declared and no two inputs for single rows have one stem. -/
theorem registered_names_nodup_iff (hd : d.Valid) {registered : List ApiType}
    (h : Registers d set registered) :
    (registered.map (·.name)).Nodup ↔ TypeNamesApart d := by
  obtain ⟨hreserved, hending⟩ := reservedNames_clear d
  have hclear : ∀ name ∈ reservedNames d, ∀ name' ∈ d.objectTypes.flatMap derivedNames,
      name ≠ name' := by
    rintro name hname _ hname' rfl
    obtain ⟨t, -, ht⟩ := List.mem_flatMap.mp hname'
    exact hending name hname (input_suffix_of_mem_derivedNames ht)
  rw [(registered_names_perm h).nodup_iff, List.append_assoc, List.nodup_append,
    List.nodup_append, derivedNames_nodup_iff hd.objectNames_nodup]
  constructor
  · rintro ⟨-, ⟨-, hstems, hderived⟩, hreserved⟩
    exact
      { reserved := fun name hname hdeclared =>
          hreserved name hname name (List.mem_append_left _ hdeclared) rfl
        derived := fun t ht name hname hdeclared =>
          hderived name hdeclared name (List.mem_flatMap.mpr ⟨t, ht, hname⟩) rfl
        stems := hstems }
  · intro hapart
    refine ⟨hreserved, ⟨hd.typeNames_nodup, hapart.stems, ?_⟩, ?_⟩
    · rintro name hdeclared _ hname rfl
      obtain ⟨t, ht, hname⟩ := List.mem_flatMap.mp hname
      exact hapart.derived t ht name hname hdeclared
    · rintro name hname name' hname'
      rcases List.mem_append.mp hname' with hdeclared | hderived
      · rintro rfl
        exact hapart.reserved name hname hdeclared
      · exact hclear name hname name' hderived

/-- **The types of an API** come from registering types in order, none of which has the name of a
built-in scalar. Their names differ exactly when no derived or reserved name is declared and no two
inputs for single rows have one stem, and only then are all of them types of the API. -/
theorem typeNames_nodup_iff {objectTypes : List ObjectType} {enumTypes : List EnumType}
    (hd : Document.validated objectTypes enumTypes = .ok d) {schema : Schema}
    (h : Schema.generate d set = .ok schema) :
    ∃ registered, Registers d set registered ∧ schema = Schema.registerAll ⟨[]⟩ registered ∧
      (∀ type ∈ registered, type.name ∉ builtInScalars) ∧
      ((registered.map (·.name)).Nodup ↔ TypeNamesApart d) ∧
      (schema.types = registered ↔ TypeNamesApart d) := by
  obtain ⟨registered, hregistered, rfl, hbuiltIn⟩ := exists_registers h
  have hnodup := registered_names_nodup_iff (Document.valid_of_validated hd) hregistered
  exact ⟨registered, hregistered, rfl, hbuiltIn, hnodup,
    Schema.types_registerAll_iff.trans hnodup⟩

end Api

/-- The types of the directory have different names, and all of them are types of its API. -/
theorem Api.directory_typeNames_nodup :
    ∃ schema, Schema.generate .directory .directory = .ok schema ∧
      Registers .directory .directory schema.types ∧ (schema.types.map (·.name)).Nodup := by
  have hd : Document.validated Document.directory.objectTypes Document.directory.enumTypes =
      .ok .directory := by decide +kernel
  have hgenerate : ∃ schema, Schema.generate .directory .directory = .ok schema := ⟨_, rfl⟩
  have hapart : TypeNamesApart .directory :=
    { reserved := by decide +kernel
      derived := by decide +kernel
      stems := by decide +kernel }
  obtain ⟨schema, hschema⟩ := hgenerate
  obtain ⟨registered, hregistered, -, -, hnodup, hkept⟩ := typeNames_nodup_iff hd hschema
  obtain rfl := hkept.mpr hapart
  exact ⟨schema, hschema, hregistered, hnodup.mpr hapart⟩

/-- A directory of people who are told apart in two ways, by constraints whose names differ by their
spelling alone. -/
def Document.namesakes : Document where
  objectTypes :=
    [ .of "Person"
        [ { name := "id", typeName := "ID", kind := .scalar .id, required := true },
          { name := "first", typeName := "String", kind := .scalar .string, required := true },
          { name := "last", typeName := "String", kind := .scalar .string, required := true },
          { name := "nick", typeName := "String", kind := .scalar .string, required := true } ]
        { uniqueConstraints :=
            [ { name := some "full_name", fields := ["first", "last"] },
              { name := some "fullName", fields := ["last", "nick"] } ] } ]
  enumTypes := []

/-- Two nested inputs of the namesakes have one name, and the schema has lost the first of them. -/
theorem Api.namesakes_share_name :
    Document.validated Document.namesakes.objectTypes [] = .ok .namesakes ∧
      RelationSet.resolve .namesakes = .ok ⟨[]⟩ ∧
      ∃ schema registered, Schema.generate .namesakes ⟨[]⟩ = .ok schema ∧
        Registers .namesakes ⟨[]⟩ registered ∧
        (registered.map (·.name)).count "PersonFullNameUniqueInput" = 2 ∧
        schema.types.length + 1 = registered.length := by
  refine ⟨by decide +kernel, by decide +kernel, _, _, rfl, ⟨_, rfl, rfl⟩, ?_, ?_⟩
  · decide +kernel
  · decide +kernel

end DataModel
