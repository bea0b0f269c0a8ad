import DataModel.Proofs.Document.Acceptance
import DataModel.Proofs.Sdl.Directives

/-!
# What declarations stand for

`Schema.toDocument` reads a data model off its declarations. What it reads is said here without the
functions that read it: a type is a name in wrappers, a kind is what a name is declared as, and the
options are what the first directives of their names give.

A kind is told apart twice, by the declared names when it is read off and by the types of the
document when this is checked. The two agree, so the check never refuses a kind.

## Main results

* `TypeExpr.exists_wrapped`: every type is a name in wrappers, which decide what is read off it.
* `Schema.classify?_eq_some_iff`: the kind of a name is what the name is declared as.
* `Schema.lowerField_eq_ok_iff`, `Schema.lowerObject_eq_ok_iff`: what a field and an object type
  become.
* `Schema.toDocument_eq_ok_iff`: a document is read off when it is what the declarations say and is
  well formed.
* `Schema.toDocument_faithful`: **a document is what its declarations say**, and a type is unknown
  only where a field has one that is not declared.
-/

namespace DataModel

/-! ### Types in their wrappers -/

namespace TypeExpr

/-- What a type expression puts around a type. -/
inductive Wrapper where
  | list
  | nonNull

/-- A name inside wrappers, the outermost one first. -/
def wrapped : List Wrapper → String → TypeExpr
  | [], name => .named name
  | .list :: wrappers, name => .list (wrapped wrappers name)
  | .nonNull :: wrappers, name => .nonNull (wrapped wrappers name)

/-- Every type is a name inside wrappers. -/
theorem exists_wrapped (t : TypeExpr) : ∃ wrappers name, t = wrapped wrappers name := by
  induction t with
  | named name => exact ⟨[], name, rfl⟩
  | list inner ih =>
      obtain ⟨wrappers, name, rfl⟩ := ih
      exact ⟨.list :: wrappers, name, rfl⟩
  | nonNull inner ih =>
      obtain ⟨wrappers, name, rfl⟩ := ih
      exact ⟨.nonNull :: wrappers, name, rfl⟩

/-- The core of a type is the name inside its wrappers. -/
@[simp]
theorem coreName_wrapped (wrappers : List Wrapper) (name : String) :
    (wrapped wrappers name).coreName = name := by
  induction wrappers with
  | nil => rfl
  | cons w _ ih => cases w <;> exact ih

/-- A type is non-null if its outermost wrapper says so. -/
theorem isNonNull_wrapped (wrappers : List Wrapper) (name : String) :
    (wrapped wrappers name).isNonNull = true ↔ wrappers.head? = some .nonNull := by
  cases wrappers with
  | nil => simp [wrapped, isNonNull]
  | cons w _ => cases w <;> simp [wrapped, isNonNull]

/-- A type has a list if any of its wrappers is one. -/
theorem hasList_wrapped (wrappers : List Wrapper) (name : String) :
    (wrapped wrappers name).hasList = true ↔ .list ∈ wrappers := by
  induction wrappers with
  | nil => simp [wrapped, hasList]
  | cons w _ ih => cases w <;> simp [wrapped, hasList, ih]

end TypeExpr

/-! ### Kinds -/

/-- A scalar is found by its name. -/
theorem ScalarType.ofName?_eq_some_iff {name : String} {k : ScalarType} :
    ofName? name = some k ↔ k.name = name := by
  have hnames : (all.map ScalarType.name).Nodup := by decide
  have hall : k ∈ all := by cases k <;> decide
  rw [ofName?, List.find?_name_eq_some_iff hnames, and_iff_right hall]

namespace Sdl

variable {s : Schema}

/-- The kind that a name is declared as: a built-in scalar, else an enum, else an object type. -/
inductive Schema.Classifies (s : Schema) (name : String) : FieldKind → Prop
  | scalar {k : ScalarType} (named : k.name = name) : Classifies s name (.scalar k)
  | enum {e : EnumDefinition} (noScalar : ∀ k : ScalarType, k.name ≠ name) (declared : e ∈ s.enums)
      (named : e.name = name) : Classifies s name .enum
  | relation {o : ObjectDefinition} (noScalar : ∀ k : ScalarType, k.name ≠ name)
      (noEnum : ∀ e ∈ s.enums, e.name ≠ name) (declared : o ∈ s.objects) (named : o.name = name) :
      Classifies s name .relation

/-- No built-in scalar has the name and nothing is declared under it. -/
def Schema.Undeclared (s : Schema) (name : String) : Prop :=
  (∀ k : ScalarType, k.name ≠ name) ∧ ∀ definition ∈ s.definitions, definition.name ≠ name

/-- No scalar is found under a name that no scalar has. -/
theorem ofName?_eq_none_iff {name : String} :
    ScalarType.ofName? name = none ↔ ∀ k : ScalarType, k.name ≠ name := by
  simp only [Option.eq_none_iff_forall_ne_some, ne_eq, ScalarType.ofName?_eq_some_iff]

/-- **The kind of a name** is what the name is declared as. -/
theorem Schema.classify?_eq_some_iff {name : String} {kind : FieldKind} :
    s.classify? name = some kind ↔ s.Classifies name kind := by
  unfold classify?
  constructor
  · intro h
    split at h
    case h_1 k hk => exact Option.some.inj h ▸ .scalar (ScalarType.ofName?_eq_some_iff.mp hk)
    case h_2 hnone =>
      have hscalar := ofName?_eq_none_iff.mp hnone
      split at h
      case isTrue henum =>
        obtain ⟨e, he, hname⟩ := List.any_eq_true.mp henum
        exact Option.some.inj h ▸ .enum hscalar he (beq_iff_eq.mp hname)
      case isFalse henum =>
        split at h
        case isTrue hobject =>
          obtain ⟨o, ho, hname⟩ := List.any_eq_true.mp hobject
          exact Option.some.inj h ▸ .relation hscalar (by simpa using henum) ho
            (beq_iff_eq.mp hname)
        case isFalse => cases h
  · intro h
    cases h with
    | scalar named => rw [ScalarType.ofName?_eq_some_iff.mpr named]
    | enum noScalar declared named =>
        have henum : s.enums.any (·.name == name) = true :=
          List.any_eq_true.mpr ⟨_, declared, beq_iff_eq.mpr named⟩
        simp only [ofName?_eq_none_iff.mpr noScalar, henum, if_true]
    | relation noScalar noEnum declared named =>
        have hobject : s.objects.any (·.name == name) = true :=
          List.any_eq_true.mpr ⟨_, declared, beq_iff_eq.mpr named⟩
        have henum : ¬ (s.enums.any (·.name == name)) = true := by simpa using noEnum
        simp only [ofName?_eq_none_iff.mpr noScalar, if_neg henum, hobject, if_true]

/-- A name without a kind is not declared. -/
theorem Schema.undeclared_of_classify?_eq_none {name : String} (h : s.classify? name = none) :
    s.Undeclared name := by
  have hclear : ∀ kind, ¬ s.Classifies name kind := fun kind hkind => by
    cases h.symm.trans (classify?_eq_some_iff.mpr hkind)
  have hscalar : ∀ k : ScalarType, k.name ≠ name := fun k hk => hclear _ (.scalar hk)
  have henum : ∀ e ∈ s.enums, e.name ≠ name := fun e he hname => hclear _ (.enum hscalar he hname)
  refine ⟨hscalar, fun definition hdefinition hname => ?_⟩
  cases definition with
  | object o =>
      exact hclear _ (.relation hscalar henum (List.mem_filterMap.mpr ⟨_, hdefinition, rfl⟩) hname)
  | enum e => exact henum e (List.mem_filterMap.mpr ⟨_, hdefinition, rfl⟩) hname

/-! ### Fields -/

/-- A field is what its definition in the type `owner` declares. -/
structure Schema.DeclaresField (s : Schema) (owner : String) (f : FieldDefinition) (g : Field) :
    Prop where
  name : g.name = f.name
  owner : g.owner = owner
  type : ∃ wrappers, f.type = .wrapped wrappers g.typeName ∧
    (g.required = true ↔ wrappers.head? = some .nonNull) ∧ (g.list = true ↔ .list ∈ wrappers)
  kind : s.Classifies g.typeName g.kind
  default : FirstGives Directive.GivesDefault none f.directives "default" g.options.defaultValue
  maxLength : FirstGives Directive.GivesLength none f.directives "maxLength" g.options.maxLength
  hint : FirstGives Directive.GivesHint none f.directives "relation" g.options.relationName

/-- **A field is lowered** to what its definition declares. -/
theorem Schema.lowerField_eq_ok_iff {owner : String} {f : FieldDefinition} {g : Field} :
    s.lowerField owner f = .ok g ↔ s.DeclaresField owner f g := by
  simp only [lowerField]
  constructor
  · intro h
    split at h
    case h_1 => cases h
    case h_2 kind hkind =>
      simp only [Except.bind_eq_ok_iff, Except.pure_eq_ok_iff, fieldDefault_eq_ok_iff,
        fieldMaxLength_eq_ok_iff, fieldRelationName_eq_ok_iff] at h
      obtain ⟨defaultValue, hdefault, maxLength, hlength, relationName, hhint, rfl⟩ := h
      obtain ⟨wrappers, name, htype⟩ := f.type.exists_wrapped
      refine ⟨rfl, rfl, ⟨wrappers, ?_, ?_, ?_⟩, classify?_eq_some_iff.mp hkind, hdefault, hlength,
        hhint⟩
      · simp [htype, TypeExpr.shape]
      · simp [htype, TypeExpr.shape, TypeExpr.isNonNull_wrapped]
      · simp [htype, TypeExpr.shape, TypeExpr.hasList_wrapped]
  · intro h
    obtain ⟨wrappers, htype, hrequired, hlist⟩ := h.type
    have hshape : f.type.shape = ⟨g.typeName, g.required, g.list⟩ := by
      rw [← TypeExpr.isNonNull_wrapped wrappers g.typeName, ← Bool.eq_iff_iff] at hrequired
      rw [← TypeExpr.hasList_wrapped wrappers g.typeName, ← Bool.eq_iff_iff] at hlist
      rw [htype, TypeExpr.shape, TypeExpr.coreName_wrapped, hrequired, hlist]
    simp only [hshape, classify?_eq_some_iff.mpr h.kind, fieldDefault_eq_ok_iff.mpr h.default,
      fieldMaxLength_eq_ok_iff.mpr h.maxLength, fieldRelationName_eq_ok_iff.mpr h.hint, ← h.name,
      ← h.owner]
    rfl

/-! ### Types -/

/-- An object type is what its definition declares. -/
structure Schema.DeclaresObject (s : Schema) (o : ObjectDefinition) (t : ObjectType) : Prop where
  name : t.name = o.name
  fields : List.Forall₂ (s.DeclaresField o.name) o.fields t.fields
  options : FirstGives Directive.DescribesOptions {} o.directives "options" t.options

/-- **An object type is lowered** to what its definition declares. -/
theorem Schema.lowerObject_eq_ok_iff {o : ObjectDefinition} {t : ObjectType} :
    s.lowerObject o = .ok t ↔ s.DeclaresObject o t := by
  simp only [lowerObject, Except.bind_eq_ok_iff, List.mapM_eq_ok_iff, lowerField_eq_ok_iff]
  cases hfirst : directive? o.directives "options" with
  | none =>
      have hoptions (options : TypeOptions) :
          FirstGives Directive.DescribesOptions {} o.directives "options" options ↔ options = {} :=
        firstGives_iff_of_none hfirst
      constructor
      · rintro ⟨fields, hfields, ht⟩
        obtain rfl := Except.pure_eq_ok_iff.mp ht
        exact ⟨rfl, hfields, (hoptions _).mpr rfl⟩
      · rintro ⟨hname, hfields, hgiven⟩
        refine ⟨t.fields, hfields, ?_⟩
        rw [← hname, ← (hoptions _).mp hgiven]
        rfl
  | some d =>
      have hoptions (options : TypeOptions) :
          FirstGives Directive.DescribesOptions {} o.directives "options" options ↔
            d.DescribesOptions options :=
        firstGives_iff_of_some hfirst
      simp only [← typeOptions_eq_ok_iff] at hoptions
      constructor
      · rintro ⟨fields, hfields, ht⟩
        cases hoption : typeOptions d with
        | error fault => simp [hoption] at ht
        | ok options =>
            simp only [hoption, Except.pure_eq_ok_iff] at ht
            subst ht
            exact ⟨rfl, hfields, (hoptions _).mpr hoption⟩
      · rintro ⟨hname, hfields, hgiven⟩
        refine ⟨t.fields, hfields, ?_⟩
        simp only [(hoptions _).mp hgiven, ← hname]
        rfl

/-- A document is what the declarations say: its types are the definitions of either kind, in source
order. -/
structure Schema.Declares (s : Schema) (d : Document) : Prop where
  objects : List.Forall₂ s.DeclaresObject s.objects d.objectTypes
  enums : List.Forall₂ (fun e lowered => lowered.name = e.name ∧ lowered.values = e.values)
    s.enums d.enumTypes

/-- The enum types are lowered one by one. -/
theorem eq_map_lower_iff {enums : List EnumDefinition} {enumTypes : List EnumType} :
    enumTypes = enums.map EnumDefinition.lower ↔
      List.Forall₂ (fun e lowered => lowered.name = e.name ∧ lowered.values = e.values) enums
        enumTypes := by
  induction enums generalizing enumTypes with
  | nil => simp
  | cons e enums ih =>
      rw [List.map_cons, List.forall₂_cons_left_iff]
      constructor
      · rintro rfl
        exact ⟨_, _, ⟨rfl, rfl⟩, ih.mp rfl, rfl⟩
      · rintro ⟨lowered, rest, ⟨hname, hvalues⟩, hrest, rfl⟩
        rw [← ih.mpr hrest, EnumDefinition.lower, ← hname, ← hvalues]

/-- **A document is read off declarations** when it is what they say and is well formed. -/
theorem Schema.toDocument_eq_ok_iff {d : Document} :
    s.toDocument = .ok d ↔ s.Declares d ∧ d.WellFormed := by
  simp only [toDocument, Except.bind_eq_ok_iff, List.mapM_eq_ok_iff, lowerObject_eq_ok_iff,
    Document.validated, Except.pure_eq_ok_iff]
  constructor
  · rintro ⟨objectTypes, hobjects, _, hcheck, rfl⟩
    exact ⟨⟨hobjects, eq_map_lower_iff.mp rfl⟩, Document.check_eq_ok_iff_wellFormed.mp hcheck⟩
  · rintro ⟨⟨hobjects, henums⟩, hd⟩
    obtain ⟨objectTypes, enumTypes⟩ := d
    obtain rfl := eq_map_lower_iff.mpr henums
    exact ⟨objectTypes, hobjects, (), Document.check_eq_ok_iff_wellFormed.mpr hd, rfl⟩

/-- The fields of an object type are lowered one by one. -/
theorem mapM_lowerField_of_lowerObject {o : ObjectDefinition} {t : ObjectType}
    (h : s.lowerObject o = .ok t) : o.fields.mapM (s.lowerField o.name) = .ok t.fields :=
  List.mapM_eq_ok_iff.mpr <| (Schema.lowerObject_eq_ok_iff.mp h).fields.imp fun _ _ =>
    Schema.lowerField_eq_ok_iff.mpr

/-- An accepted document is made of lowered definitions. -/
theorem of_toDocument {d : Document} (h : s.toDocument = .ok d) :
    s.objects.mapM s.lowerObject = .ok d.objectTypes ∧
      d.enumTypes = s.enums.map EnumDefinition.lower ∧
      Document.validated d.objectTypes d.enumTypes = .ok d := by
  obtain ⟨objectTypes, hobjects, hvalidated⟩ := Except.bind_eq_ok_iff.mp h
  obtain ⟨_, -, hd⟩ := Except.bind_eq_ok_iff.mp hvalidated
  obtain rfl := Except.pure_eq_ok_iff.mp hd
  exact ⟨hobjects, rfl, hvalidated⟩

/-! ### Unknown types -/

/-- **A kind that was read off declarations is known** in the document that they say. -/
theorem hasKind_of_lowered {objectTypes : List ObjectType}
    (h : s.objects.mapM s.lowerObject = .ok objectTypes) {t : ObjectType} (ht : t ∈ objectTypes)
    {g : Field} (hg : g ∈ t.fields) :
    Document.HasKind ⟨objectTypes, s.enums.map EnumDefinition.lower⟩ g := by
  have hnames : objectTypes.map (·.name) = s.objects.map (·.name) :=
    List.map_eq_of_mapM_eq_ok h fun o _ t ht => (Schema.lowerObject_eq_ok_iff.mp ht).name
  obtain ⟨o, -, ho⟩ := List.exists_mem_of_mapM_eq_ok h ht
  obtain ⟨f, -, hf⟩ := List.exists_mem_of_mapM_eq_ok (mapM_lowerField_of_lowerObject ho) hg
  have hkind := (Schema.lowerField_eq_ok_iff.mp hf).kind
  unfold Document.HasKind
  generalize g.kind = kind at hkind
  cases hkind with
  | scalar named => exact named.symm
  | enum _ declared named => exact ⟨_, List.mem_map_of_mem declared, named⟩
  | relation _ _ declared named =>
      exact List.mem_map.mp (hnames ▸ List.mem_map.mpr ⟨_, declared, named⟩)

/-- A field of the schema has a type that is neither built in nor declared, and reading it off says
so. -/
def Schema.HasUndeclared (s : Schema) (objectType field typeName : String) : Prop :=
  ∃ o ∈ s.objects, ∃ f ∈ o.fields, o.name = objectType ∧ f.name = field ∧
    (∃ wrappers, f.type = .wrapped wrappers typeName) ∧ s.Undeclared typeName ∧
    s.lowerField objectType f = .error (.unknownType objectType field typeName)

/-- A default is refused for other reasons than the type. -/
theorem fieldDefault_failsOnly {owner : String} {f : FieldDefinition} :
    (fieldDefault owner f).FailsOnly (¬ ·.IsUnknownType) := by
  unfold fieldDefault
  split
  · exact .of_eq_ok rfl
  · split
    · exact .error id
    · split
      · exact .of_eq_ok rfl
      · exact .error id

/-- A maximum length is refused for other reasons than the type. -/
theorem fieldMaxLength_failsOnly {owner : String} {f : FieldDefinition} :
    (fieldMaxLength owner f).FailsOnly (¬ ·.IsUnknownType) := by
  unfold fieldMaxLength
  split
  · exact .of_eq_ok rfl
  · split
    · exact .of_eq_ok rfl
    · exact .error id

/-- A hint is refused for other reasons than the type. -/
theorem fieldRelationName_failsOnly {owner : String} {f : FieldDefinition} :
    (fieldRelationName owner f).FailsOnly (¬ ·.IsUnknownType) := by
  unfold fieldRelationName
  split
  · exact .of_eq_ok rfl
  · exact .of_eq_ok rfl
  · exact .error id

/-- **A field is refused for its type** when the name in its wrappers is not declared. -/
theorem undeclared_of_lowerField {owner t n name : String} {f : FieldDefinition}
    (h : s.lowerField owner f = .error (.unknownType t n name)) :
    t = owner ∧ n = f.name ∧ (∃ wrappers, f.type = .wrapped wrappers name) ∧ s.Undeclared name := by
  simp only [Schema.lowerField] at h
  split at h
  case h_1 hnone =>
    obtain ⟨rfl, rfl, rfl⟩ := ModelError.unknownType.inj (Except.error.inj h)
    obtain ⟨wrappers, name, htype⟩ := f.type.exists_wrapped
    have hname : f.type.shape.name = name := by rw [htype, TypeExpr.shape, TypeExpr.coreName_wrapped]
    exact ⟨rfl, rfl, ⟨wrappers, hname.symm ▸ htype⟩, Schema.undeclared_of_classify?_eq_none hnone⟩
  case h_2 =>
    -- past the kind only the options can fail
    refine absurd trivial (Except.FailsOnly.bind (P := (¬ ·.IsUnknownType)) fieldDefault_failsOnly
      (fun _ _ => ?_) _ h)
    exact fieldMaxLength_failsOnly.bind fun _ _ => fieldRelationName_failsOnly.bind fun _ _ =>
      .pure _

/-- An object type is refused for an unknown type when one of its fields is. -/
theorem Schema.hasUndeclared_of_lowerObject {o : ObjectDefinition} (ho : o ∈ s.objects)
    {t f n : String} (h : s.lowerObject o = .error (.unknownType t f n)) :
    s.HasUndeclared t f n := by
  have hfails : (s.lowerObject o).FailsOnly
      (fun e => ∀ t f n, e = .unknownType t f n → s.HasUndeclared t f n) := by
    refine .bind (List.mapM_failsOnly fun g hg e he => ?_) fun fields _ => ?_
    · rintro t f n rfl
      obtain ⟨rfl, rfl, htype, hundeclared⟩ := undeclared_of_lowerField he
      exact ⟨o, ho, g, hg, rfl, rfl, htype, hundeclared, he⟩
    · split
      · exact .pure _
      · split
        · exact .pure _
        · exact .error nofun
  exact hfails _ h t f n rfl

/-- **No kind that was read off is refused** when the document is checked. -/
theorem Schema.validated_ne_unknownType {objectTypes : List ObjectType}
    (h : s.objects.mapM s.lowerObject = .ok objectTypes) (t f n : String) :
    Document.validated objectTypes (s.enums.map EnumDefinition.lower) ≠
      .error (.unknownType t f n) := by
  have hcheck : (Document.validated objectTypes (s.enums.map EnumDefinition.lower)).FailsOnly
      (¬ ·.IsUnknownType) :=
    .bind (Document.check_failsOnly fun _ ht _ hg => hasKind_of_lowered h ht hg) fun _ _ => .pure _
  exact fun herror => hcheck _ herror trivial

/-- **Documents are read off faithfully**: a document is what the declarations say. A type is
reported as unknown only when reading off a field whose type is not declared, since no kind that was
read off is refused afterwards. -/
theorem Schema.toDocument_faithful (s : Schema) :
    (∀ d, s.toDocument = .ok d → s.Declares d) ∧
    (∀ t f n, s.toDocument = .error (.unknownType t f n) → s.HasUndeclared t f n) ∧
    ∀ objectTypes, s.objects.mapM s.lowerObject = .ok objectTypes → ∀ t f n,
      Document.validated objectTypes (s.enums.map EnumDefinition.lower) ≠
        .error (.unknownType t f n) := by
  refine ⟨fun d hd => (toDocument_eq_ok_iff.mp hd).1, fun t f n herror => ?_,
    fun _ hobjects => validated_ne_unknownType hobjects⟩
  have hfails : s.toDocument.FailsOnly
      (fun e => ∀ t f n, e = .unknownType t f n → s.HasUndeclared t f n) := by
    refine .bind (List.mapM_failsOnly fun o ho e he => ?_) fun objectTypes hobjects e he => ?_
    · rintro t f n rfl
      exact hasUndeclared_of_lowerObject ho he
    · rintro t f n rfl
      exact absurd he (validated_ne_unknownType hobjects t f n)
  exact hfails _ herror t f n rfl

/-- A guestbook with an entry type, an enum and directives of every kind, one of them given twice. The
entries refer to a type of the given name. -/
def Schema.guestbook (target : String) : Schema where
  definitions := [
    .enum ⟨"Mood", ["GLAD", "SAD"]⟩,
    .object {
      name := "Guest"
      fields := [
        { name := "id", type := .nonNull (.named "ID"), directives := [] },
        { name := "name", type := .nonNull (.named "String")
          directives := [⟨"maxLength", [⟨"value", .int 80⟩]⟩] },
        { name := "mood", type := .named "Mood"
          directives := [⟨"default", [⟨"value", .enum "GLAD"⟩]⟩, ⟨"default", [⟨"value", .null⟩]⟩] },
        { name := "entries", type := .nonNull (.list (.nonNull (.named "Entry")))
          directives := [⟨"relation", [⟨"name", .string "Writes"⟩]⟩] }]
      directives := [⟨"options", [⟨"constraints",
        .object [("unique", .list [.object [("fields", .list [.string "name"])]])]⟩]⟩] },
    .object {
      name := "Entry"
      fields := [
        { name := "id", type := .nonNull (.named "ID"), directives := [] },
        { name := "guest", type := .named target
          directives := [⟨"relation", [⟨"name", .string "Writes"⟩]⟩] }]
      directives := [] }]

/-- The document of the guestbook. -/
def guestbookDocument : Document where
  objectTypes := [
    .of "Guest" [
      { name := "id", typeName := "ID", kind := .scalar .id, required := true },
      { name := "name", typeName := "String", kind := .scalar .string, required := true
        options := { maxLength := some 80 } },
      { name := "mood", typeName := "Mood", kind := .enum
        options := { defaultValue := some (.enum "GLAD") } },
      { name := "entries", typeName := "Entry", kind := .relation, required := true, list := true
        options := { relationName := some "Writes" } }]
      { uniqueConstraints := [{ fields := ["name"] }] },
    .of "Entry" [
      { name := "id", typeName := "ID", kind := .scalar .id, required := true },
      { name := "guest", typeName := "Guest", kind := .relation
        options := { relationName := some "Writes" } }] {}]
  enumTypes := [⟨"Mood", ["GLAD", "SAD"]⟩]

/-- The guestbook is read off as its document, and refused where entries refer to an unknown type. -/
theorem guestbook_faithful :
    (Schema.guestbook "Guest").toDocument = .ok guestbookDocument ∧
      (Schema.guestbook "Guest").Declares guestbookDocument ∧
      (Schema.guestbook "Gast").toDocument = .error (.unknownType "Entry" "guest" "Gast") ∧
      (Schema.guestbook "Gast").HasUndeclared "Entry" "guest" "Gast" := by
  have hok : (Schema.guestbook "Guest").toDocument = .ok guestbookDocument := by decide +kernel
  have herror : (Schema.guestbook "Gast").toDocument =
      .error (.unknownType "Entry" "guest" "Gast") := by decide +kernel
  exact ⟨hok, (Schema.toDocument_faithful _).1 _ hok, herror,
    (Schema.toDocument_faithful _).2.1 _ _ _ herror⟩

end Sdl

end DataModel
