import DataModel.Proofs.Document.Validity

/-!
# Which documents are accepted

`Document.validated` walks over a document with sets of names that it has seen and stops at the
first fault. What it asks for can be said without an order: `Document.WellFormed` lists the
conditions, and the walk succeeds exactly where they hold. Names are looked up by their first
declaration in the walk; the conditions speak of any declaration of that name, which is the same
once names are distinct.

## Main results

* `Document.kindIsKnown_iff`, `Document.defaultFault?_eq_none_iff`: what is asked of the kind and of
  the default of a field.
* `Document.checkObjectType_eq_ok_iff`: what is asked of an object type.
* `Document.validated_eq_ok_iff`: **a document is accepted, as it is, exactly when it is well
  formed**.
* `Document.check_failsOnly`: a document in which all kinds are known is not refused for an unknown
  type.
-/

namespace DataModel

namespace Document

/-! ### The conditions -/

/-- The declared type name stands for the kind of the field. -/
def HasKind (d : Document) (f : Field) : Prop :=
  match f.kind with
  | .scalar s => f.typeName = s.name
  | .enum => ∃ e ∈ d.enumTypes, e.name = f.typeName
  | .relation => ∃ t ∈ d.objectTypes, t.name = f.typeName

/-- A default fits a field. No constructor is about identifiers or relations, which have none. -/
inductive Admits (d : Document) (f : Field) : DefaultValue → Prop
  | string {s : String} (kind : f.kind = .scalar .string) (length : s.length ≤ f.maxLength.toNat) :
      Admits d f (.string s)
  | int {n : Int64} (kind : f.kind = .scalar .int) : Admits d f (.int n)
  | floatOfInt {n : Int64} (kind : f.kind = .scalar .float) : Admits d f (.int n)
  | float {x : Binary64} (kind : f.kind = .scalar .float) : Admits d f (.float x)
  | boolean {b : Bool} (kind : f.kind = .scalar .boolean) : Admits d f (.boolean b)
  | dateTime {s : String} (kind : f.kind = .scalar .dateTime) (literal : DateTime.isLiteral s = true) :
      Admits d f (.string s)
  | enum {e : EnumType} {s : String} {v : DefaultValue} (kind : f.kind = .enum)
      (text : v.string? = some s) (declared : e ∈ d.enumTypes) (name : e.name = f.typeName)
      (member : s ∈ e.values) : Admits d f v

/-- The names are those of at least one column, and of scalar and enum fields of the type only. -/
def NamesColumns (t : ObjectType) (names : List String) : Prop :=
  names ≠ [] ∧ ∀ name ∈ names, ∃ f ∈ t.fields, f.name = name ∧ f.isValue = true

/-- What is asked of a document. -/
structure WellFormed (d : Document) : Prop where
  typeNames : (d.objectTypes.map (·.name) ++ d.enumTypes.map (·.name)).Nodup
  enumValues : ∀ e ∈ d.enumTypes, e.values.Nodup
  fieldNames : ∀ t ∈ d.objectTypes, (t.fields.map (·.name)).Nodup
  kinds : ∀ t ∈ d.objectTypes, ∀ f ∈ t.fields, d.HasKind f
  defaults : ∀ t ∈ d.objectTypes, ∀ f ∈ t.fields, ∀ v ∈ f.options.defaultValue, d.Admits f v
  constraints : ∀ t ∈ d.objectTypes, ∀ c ∈ t.options.uniqueConstraints, NamesColumns t c.fields
  indexes : ∀ t ∈ d.objectTypes, ∀ i ∈ t.options.indexes, NamesColumns t i.fields

variable {d : Document} {t : ObjectType} {f : Field}

/-! ### Fields -/

/-- The kind of a field is known when its type name stands for it. -/
theorem kindIsKnown_iff : d.kindIsKnown f = true ↔ d.HasKind f := by
  unfold kindIsKnown HasKind
  cases f.kind with
  | scalar s => exact beq_iff_eq.trans eq_comm
  | enum => simp [enumType?]
  | relation => simp [objectType?]

/-- A text is a value of the first enum type of a name when it is a value of any, where enum types
have different names. -/
theorem isMember_iff (hnames : (d.enumTypes.map (·.name)).Nodup) {name value : String} :
    (d.enumType? name).any (·.values.contains value) = true ↔
      ∃ e ∈ d.enumTypes, e.name = name ∧ value ∈ e.values := by
  simp only [Option.any_eq_true, enumType?, List.find?_name_eq_some_iff hnames, and_assoc,
    List.contains_iff_mem]

/-- **A default has no fault** when it fits its field. -/
theorem defaultFault?_eq_none_iff (hnames : (d.enumTypes.map (·.name)).Nodup) {v : DefaultValue} :
    d.defaultFault? f v = none ↔ d.Admits f v := by
  constructor
  · intro h
    unfold defaultFault? at h
    split at h <;> simp only [reduceCtorEq, ite_eq_left_iff, ite_eq_right_iff, imp_false,
      Nat.not_lt, Decidable.not_not, isMember_iff hnames] at h
    case h_3 s hkind => exact .string hkind h
    case h_4 hkind => exact .int hkind
    case h_5 hkind => exact .floatOfInt hkind
    case h_6 hkind => exact .float hkind
    case h_7 hkind => exact .boolean hkind
    case h_8 s hkind => exact .dateTime hkind h
    case h_9 s hkind =>
      obtain ⟨e, he, hname, hs⟩ := h
      exact .enum hkind rfl he hname hs
    case h_10 s hkind =>
      obtain ⟨e, he, hname, hs⟩ := h
      exact .enum hkind rfl he hname hs
  · intro h
    unfold defaultFault?
    cases h with
    | string kind length => simp only [kind, if_neg (Nat.not_lt.mpr length)]
    | int kind => simp only [kind]
    | floatOfInt kind => simp only [kind]
    | float kind => simp only [kind]
    | boolean kind => simp only [kind]
    | dateTime kind literal => simp only [kind, literal, if_true]
    | enum kind text declared name member =>
        have hmember := (isMember_iff hnames).mpr ⟨_, declared, name, member⟩
        cases v with
        | string s =>
            obtain rfl := Option.some.inj text
            simp only [kind, hmember, if_true]
        | enum s =>
            obtain rfl := Option.some.inj text
            simp only [kind, hmember, if_true]
        | int n => cases text
        | float x => cases text
        | boolean b => cases text

/-- **A field passes its check** when its kind is known and its default fits. -/
theorem checkField_eq_ok_iff (hnames : (d.enumTypes.map (·.name)).Nodup) :
    d.checkField t f = .ok () ↔ d.HasKind f ∧ ∀ v ∈ f.options.defaultValue, d.Admits f v := by
  have hdefault : f.options.defaultValue.bind (d.defaultFault? f) = none ↔
      ∀ v ∈ f.options.defaultValue, d.Admits f v := by
    simp only [Option.bind_eq_none_iff, defaultFault?_eq_none_iff hnames, Option.mem_def]
  rw [← kindIsKnown_iff, ← hdefault, checkField]
  cases hkind : d.kindIsKnown f with
  | false => simp
  | true => cases f.options.defaultValue.bind (d.defaultFault? f) <;> simp

/-! ### Types -/

/-- An enum type passes its check when its values are distinct. -/
theorem checkEnumType_eq_ok_iff {e : EnumType} : checkEnumType e = .ok () ↔ e.values.Nodup := by
  have hrepeated : firstRepeated? [] e.values = none ↔ e.values.Nodup := by
    simp [firstRepeated?_eq_none_iff]
  rw [← hrepeated, checkEnumType]
  cases firstRepeated? [] e.values <;> simp

/-- A column list passes its check when it names columns of the type. -/
theorem checkColumns_eq_ok_iff_namesColumns (hfields : (t.fields.map (·.name)).Nodup)
    {label : String} {names : List String} :
    checkColumns t label names = .ok () ↔ NamesColumns t names := by
  have hcolumn : ∀ name, (t.valueField? name).isSome = true ↔
      ∃ f ∈ t.fields, f.name = name ∧ f.isValue = true := by
    intro name
    simp only [ObjectType.valueField?, ObjectType.field?, Option.isSome_filter, Option.any_eq_true,
      List.find?_name_eq_some_iff hfields, and_assoc]
  simp only [checkColumns_eq_ok_iff, hcolumn, NamesColumns]

/-- **An object type passes its check** when its field names are distinct, each field passes its own
check, and its constraints and indexes name columns. -/
theorem checkObjectType_eq_ok_iff :
    d.checkObjectType t = .ok () ↔
      (t.fields.map (·.name)).Nodup ∧ (∀ f ∈ t.fields, d.checkField t f = .ok ()) ∧
      (∀ c ∈ t.options.uniqueConstraints, NamesColumns t c.fields) ∧
      ∀ i ∈ t.options.indexes, NamesColumns t i.fields := by
  rw [checkObjectType, Except.bind_eq_ok_iff]
  constructor
  · rintro ⟨_, hfields, hlists⟩
    obtain ⟨hnodup, -, hchecks⟩ := checkFields_eq_ok_iff.mp hfields
    simp only [List.forM_eq_ok_iff, columnLists, List.forall_mem_append, List.forall_mem_map,
      checkColumns_eq_ok_iff_namesColumns hnodup] at hlists
    exact ⟨hnodup, hchecks, hlists⟩
  · rintro ⟨hnodup, hchecks, hlists⟩
    refine ⟨(), checkFields_eq_ok_iff.mpr ⟨hnodup, fun _ _ => List.not_mem_nil, hchecks⟩, ?_⟩
    simpa only [List.forM_eq_ok_iff, columnLists, List.forall_mem_append, List.forall_mem_map,
      checkColumns_eq_ok_iff_namesColumns hnodup] using hlists

/-! ### Documents -/

/-- A document passes its check when it is well formed. -/
theorem check_eq_ok_iff_wellFormed : d.check = .ok () ↔ d.WellFormed := by
  rw [check_eq_ok_iff]
  constructor
  · rintro ⟨hnames, henums, hobjects⟩
    have henumNames := (List.nodup_append.mp hnames).2.1
    have hobject := fun t ht => checkObjectType_eq_ok_iff.mp (hobjects t ht)
    have hfield := fun t ht f hf => (checkField_eq_ok_iff henumNames).mp ((hobject t ht).2.1 f hf)
    exact
      { typeNames := hnames
        enumValues := fun e he => checkEnumType_eq_ok_iff.mp (henums e he)
        fieldNames := fun t ht => (hobject t ht).1
        kinds := fun t ht f hf => (hfield t ht f hf).1
        defaults := fun t ht f hf => (hfield t ht f hf).2
        constraints := fun t ht => (hobject t ht).2.2.1
        indexes := fun t ht => (hobject t ht).2.2.2 }
  · intro hd
    have henumNames := (List.nodup_append.mp hd.typeNames).2.1
    refine ⟨hd.typeNames, fun e he => checkEnumType_eq_ok_iff.mpr (hd.enumValues e he), ?_⟩
    intro t ht
    have hfields : ∀ f ∈ t.fields, d.checkField t f = .ok () := fun f hf =>
      (checkField_eq_ok_iff henumNames).mpr ⟨hd.kinds t ht f hf, hd.defaults t ht f hf⟩
    exact checkObjectType_eq_ok_iff.mpr
      ⟨hd.fieldNames t ht, hfields, hd.constraints t ht, hd.indexes t ht⟩

/-- **A document is accepted, as it is, exactly when it is well formed.** -/
theorem validated_eq_ok_iff {objectTypes : List ObjectType} {enumTypes : List EnumType} :
    validated objectTypes enumTypes = .ok d ↔ d = ⟨objectTypes, enumTypes⟩ ∧ d.WellFormed := by
  rw [validated, Except.bind_eq_ok_iff]
  constructor
  · rintro ⟨_, hcheck, hd⟩
    obtain rfl := Except.pure_eq_ok_iff.mp hd
    exact ⟨rfl, check_eq_ok_iff_wellFormed.mp hcheck⟩
  · rintro ⟨rfl, hd⟩
    exact ⟨(), check_eq_ok_iff_wellFormed.mpr hd, rfl⟩

end Document

/-! ### Unknown types -/

/-- The error says that a field has an unknown type. -/
def ModelError.IsUnknownType : ModelError → Prop
  | .unknownType _ _ _ => True
  | _ => False

namespace Document

variable {d : Document} {t : ObjectType} {f : Field}

/-- A field of a known kind is not refused for its type. -/
theorem checkField_failsOnly (hkind : d.HasKind f) :
    (d.checkField t f).FailsOnly (¬ ·.IsUnknownType) := by
  rw [checkField, kindIsKnown_iff.mpr hkind, Bool.not_true, if_neg Bool.false_ne_true]
  split
  · exact .error id
  · exact .of_eq_ok rfl

/-- No field is refused for its type when all kinds are known. -/
theorem checkFields_failsOnly {seen : List String} {fields : List Field}
    (hkinds : ∀ f ∈ fields, d.HasKind f) :
    (d.checkFields t seen fields).FailsOnly (¬ ·.IsUnknownType) := by
  induction fields generalizing seen with
  | nil => exact .of_eq_ok rfl
  | cons f rest ih =>
      obtain ⟨hf, hrest⟩ := List.forall_mem_cons.mp hkinds
      rw [checkFields]
      split
      · exact .error id
      · exact (checkField_failsOnly hf).bind fun _ _ => ih hrest

/-- A column list is refused for its columns only. -/
theorem checkColumns_failsOnly {label : String} {names : List String} :
    (checkColumns t label names).FailsOnly (¬ ·.IsUnknownType) := by
  unfold checkColumns
  split
  · exact .error id
  · split
    · exact .error id
    · exact .of_eq_ok rfl

/-- **No document is refused for an unknown type** when all kinds are known. -/
theorem check_failsOnly (hkinds : ∀ t ∈ d.objectTypes, ∀ f ∈ t.fields, d.HasKind f) :
    d.check.FailsOnly (¬ ·.IsUnknownType) := by
  have henum : ∀ e, (checkEnumType e).FailsOnly (¬ ·.IsUnknownType) := by
    intro e
    unfold checkEnumType
    split
    · exact .error id
    · exact .of_eq_ok rfl
  unfold check
  split
  · exact .error id
  · refine .bind (List.forM_failsOnly fun e _ => henum e) fun _ _ =>
      List.forM_failsOnly fun t ht => ?_
    exact (checkFields_failsOnly (hkinds t ht)).bind fun _ _ =>
      List.forM_failsOnly fun _ _ => checkColumns_failsOnly

end Document

end DataModel
