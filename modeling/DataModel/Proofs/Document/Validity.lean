import DataModel.Document.Validation
import DataModel.Proofs.Except
import DataModel.Proofs.Lookup

/-!
# What acceptance means

A document that `Document.validated` admits has distinct type names, distinct field names on each
type, and fields whose declared type names stand for their kinds. These are the facts that look-ups
rest on: a type name determines its type, and a field is determined by its name and the name of its
type.

## Main results

* `Document.valid_of_validated`: an accepted document is valid.
* `Document.exists_constraintField_of_validated`: the columns of a constraint are scalar or enum
  fields of its type.
* `Document.Valid.objectType?_eq_some_iff`: an object type is found by its own name only.
* `Document.Valid.relationFields_nodup`, `Document.Valid.eq_of_names_eq`: the relation fields of a
  document are told apart by their names.
-/

namespace DataModel

/-- Nothing is repeated in a list without repetitions that avoids what was seen. -/
theorem firstRepeated?_eq_none_iff {seen l : List String} :
    firstRepeated? seen l = none ↔ l.Nodup ∧ ∀ name ∈ l, name ∉ seen := by
  induction l generalizing seen with
  | nil => simp [firstRepeated?]
  | cons name rest ih =>
      rw [firstRepeated?]
      by_cases h : seen.contains name
      · simp_all
      · rw [if_neg h, ih]
        grind

namespace ObjectType

variable {t : ObjectType} {f : Field} {name : String}

/-- A field found by a name has that name. -/
theorem name_of_field? (h : t.field? name = some f) : f.name = name := by
  simpa using List.find?_some h

/-- A scalar or enum field found by a name has that name. -/
theorem name_of_valueField? (h : t.valueField? name = some f) : f.name = name :=
  name_of_field? (Option.filter_eq_some_iff.mp h).1

end ObjectType

namespace Document

/-- What holds of every accepted document: names that have to be distinct are, and every field has
the kind that its type name stands for. -/
structure Valid (d : Document) : Prop where
  typeNames_nodup : d.typeNames.Nodup
  fieldNames_nodup : ∀ t ∈ d.objectTypes, (t.fields.map (·.name)).Nodup
  kindIsKnown : ∀ t ∈ d.objectTypes, ∀ f ∈ t.fields, d.kindIsKnown f = true

/-- What a successful check of one field says. -/
theorem kindIsKnown_of_checkField {d : Document} {t : ObjectType} {f : Field}
    (h : d.checkField t f = .ok ()) : d.kindIsKnown f = true := by
  by_contra hkind
  rw [checkField, if_pos (by simpa using hkind)] at h
  cases h

/-- The fields of a type pass when their names are new and distinct and each field passes its own
check. -/
theorem checkFields_eq_ok_iff {d : Document} {t : ObjectType} {seen : List String}
    {fields : List Field} :
    d.checkFields t seen fields = .ok () ↔ (fields.map (·.name)).Nodup ∧
      (∀ f ∈ fields, f.name ∉ seen) ∧ ∀ f ∈ fields, d.checkField t f = .ok () := by
  induction fields generalizing seen with
  | nil => simp [checkFields]
  | cons f rest ih =>
      rw [checkFields]
      by_cases hseen : f.name ∈ seen
      · simp [hseen]
      · rw [if_neg (by simpa using hseen), Except.bind_eq_ok_iff]
        simp only [ih, List.map_cons, List.nodup_cons, List.mem_map, List.mem_cons]
        constructor
        · rintro ⟨_, hfield, hnodup, hnew, hrest⟩
          refine ⟨⟨fun ⟨g, hg, heq⟩ => hnew g hg (.inl heq), hnodup⟩, ?_, ?_⟩
          · rintro g (rfl | hg)
            · exact hseen
            · exact fun hmem => hnew g hg (.inr hmem)
          · rintro g (rfl | hg)
            · exact hfield
            · exact hrest g hg
        · rintro ⟨⟨hfirst, hnodup⟩, hnew, hchecks⟩
          refine ⟨(), hchecks f (.inl rfl), hnodup, ?_, fun g hg => hchecks g (.inr hg)⟩
          rintro g hg (heq | hmem)
          · exact hfirst ⟨g, hg, heq⟩
          · exact hnew g (.inr hg) hmem

/-- What a successful check of a document says: the type names are distinct, and every enum type and
object type passes its own check. -/
theorem check_eq_ok_iff {d : Document} :
    d.check = .ok () ↔ d.typeNames.Nodup ∧ (∀ e ∈ d.enumTypes, checkEnumType e = .ok ()) ∧
      ∀ t ∈ d.objectTypes, d.checkObjectType t = .ok () := by
  have hnames : firstRepeated? [] d.typeNames = none ↔ d.typeNames.Nodup := by
    simp [firstRepeated?_eq_none_iff]
  rw [check, ← hnames]
  cases firstRepeated? [] d.typeNames with
  | some name => simp
  | none =>
      rw [Except.bind_eq_ok_iff]
      constructor
      · rintro ⟨_, henums, hobjects⟩
        exact ⟨rfl, List.forM_eq_ok_iff.mp henums, List.forM_eq_ok_iff.mp hobjects⟩
      · rintro ⟨-, henums, hobjects⟩
        exact ⟨(), List.forM_eq_ok_iff.mpr henums, List.forM_eq_ok_iff.mpr hobjects⟩

/-- An accepted document passed its check. -/
theorem check_of_validated {objectTypes : List ObjectType} {enumTypes : List EnumType}
    {d : Document} (h : validated objectTypes enumTypes = .ok d) : d.check = .ok () := by
  obtain ⟨_, hcheck, hd⟩ := Except.bind_eq_ok_iff.mp h
  rwa [Except.pure_eq_ok_iff.mp hd] at hcheck

/-- **An accepted document is valid.** -/
theorem valid_of_validated {objectTypes : List ObjectType} {enumTypes : List EnumType}
    {d : Document} (h : validated objectTypes enumTypes = .ok d) : d.Valid := by
  obtain ⟨hnames, -, hobjects⟩ := check_eq_ok_iff.mp (check_of_validated h)
  have hfields : ∀ t ∈ d.objectTypes, d.checkFields t [] t.fields = .ok () := by
    intro t ht
    obtain ⟨_, hfields, -⟩ := Except.bind_eq_ok_iff.mp (hobjects t ht)
    exact hfields
  exact
    { typeNames_nodup := hnames
      fieldNames_nodup := fun t ht => (checkFields_eq_ok_iff.mp (hfields t ht)).1
      kindIsKnown := fun t ht f hf =>
        kindIsKnown_of_checkField ((checkFields_eq_ok_iff.mp (hfields t ht)).2.2 f hf) }

/-! ### Column lists of constraints and indexes -/

/-- A column list is in order when it has columns, each of which is a scalar or enum field. -/
theorem checkColumns_eq_ok_iff {t : ObjectType} {label : String} {fields : List String} :
    checkColumns t label fields = .ok () ↔
      fields ≠ [] ∧ ∀ name ∈ fields, (t.valueField? name).isSome = true := by
  unfold checkColumns
  by_cases hempty : fields = []
  · simp [hempty]
  · cases hfind : fields.find? fun name => (t.valueField? name).isNone with
    | some name =>
        have hmem := List.mem_of_find?_eq_some hfind
        have hnone : t.valueField? name = none := by simpa using List.find?_some hfind
        have hbad : ¬ ∀ name ∈ fields, (t.valueField? name).isSome = true := fun hall => by
          simpa [hnone] using hall name hmem
        simp [hempty, hbad]
    | none =>
        have hall : ∀ name ∈ fields, (t.valueField? name).isSome = true := by
          simpa [Option.isSome_iff_ne_none] using hfind
        simpa [hempty] using hall

/-- The columns of a constraint of an accepted document pass their check. -/
theorem constraintColumns_of_validated {objectTypes : List ObjectType} {enumTypes : List EnumType}
    {d : Document} (h : validated objectTypes enumTypes = .ok d) {t : ObjectType}
    (ht : t ∈ d.objectTypes) {c : UniqueConstraint} (hc : c ∈ t.options.uniqueConstraints) :
    c.fields ≠ [] ∧ ∀ name ∈ c.fields, (t.valueField? name).isSome = true := by
  obtain ⟨-, -, hobjects⟩ := check_eq_ok_iff.mp (check_of_validated h)
  obtain ⟨_, -, hlists⟩ := Except.bind_eq_ok_iff.mp (hobjects t ht)
  have hlist : (c.label, c.fields) ∈ columnLists t :=
    List.mem_append_left _ (List.mem_map_of_mem (f := fun c => (c.label, c.fields)) hc)
  exact checkColumns_eq_ok_iff.mp (List.forM_eq_ok_iff.mp hlists _ hlist)

/-- **The columns of a constraint** of an accepted document are scalar or enum fields of its
type. -/
theorem exists_constraintField_of_validated {objectTypes : List ObjectType}
    {enumTypes : List EnumType} {d : Document} (h : validated objectTypes enumTypes = .ok d)
    {t : ObjectType} (ht : t ∈ d.objectTypes) {c : UniqueConstraint}
    (hc : c ∈ t.options.uniqueConstraints) {name : String} (hname : name ∈ c.fields) :
    ∃ f, t.field? name = some f ∧ f.isValue = true := by
  obtain ⟨f, hf⟩ :=
    Option.isSome_iff_exists.mp ((constraintColumns_of_validated h ht hc).2 name hname)
  exact ⟨f, Option.filter_eq_some_iff.mp hf⟩

/-- The constraints of an accepted document are over fields of their types. -/
theorem constraintFields_found_of_validated {objectTypes : List ObjectType}
    {enumTypes : List EnumType} {d : Document} (h : validated objectTypes enumTypes = .ok d) :
    ∀ t ∈ d.objectTypes, ∀ c ∈ t.options.uniqueConstraints, ∀ name ∈ c.fields,
      ∃ f, t.field? name = some f := by
  intro t ht c hc name hname
  obtain ⟨f, hf, -⟩ := exists_constraintField_of_validated h ht hc hname
  exact ⟨f, hf⟩

/-! ### Relation fields -/

/-- The relation fields of a document are those of its object types. -/
theorem mem_relationFields {d : Document} {t : ObjectType} {f : Field} :
    (t, f) ∈ d.relationFields ↔ t ∈ d.objectTypes ∧ f ∈ t.relationFields := by
  simp only [relationFields, List.mem_flatMap, List.mem_map, Prod.mk.injEq]
  constructor
  · rintro ⟨_, ht, _, hf, rfl, rfl⟩
    exact ⟨ht, hf⟩
  · rintro ⟨ht, hf⟩
    exact ⟨t, ht, f, hf, rfl, rfl⟩

/-- The relation fields of a type are the fields of that kind. -/
theorem mem_relationFields_type {t : ObjectType} {f : Field} :
    f ∈ t.relationFields ↔ f ∈ t.fields ∧ f.kind = .relation := by
  simp [ObjectType.relationFields, Field.isRelation]

namespace Valid

variable {d : Document} (hd : d.Valid)
include hd

/-- The names of the object types are distinct. -/
theorem objectNames_nodup : (d.objectTypes.map (·.name)).Nodup :=
  (List.nodup_append.mp hd.typeNames_nodup).1

/-- An object type is found by its own name only. -/
theorem objectType?_eq_some_iff {n : String} {t : ObjectType} :
    d.objectType? n = some t ↔ t ∈ d.objectTypes ∧ t.name = n :=
  List.find?_name_eq_some_iff hd.objectNames_nodup

/-- The target type of a relation field is declared. -/
theorem exists_target {t : ObjectType} {f : Field} (h : (t, f) ∈ d.relationFields) :
    ∃ target ∈ d.objectTypes, target.name = f.typeName := by
  obtain ⟨ht, hf⟩ := mem_relationFields.mp h
  obtain ⟨hf, hkind⟩ := mem_relationFields_type.mp hf
  have hknown := hd.kindIsKnown t ht f hf
  simp only [Document.kindIsKnown, hkind] at hknown
  obtain ⟨target, htarget⟩ := Option.isSome_iff_exists.mp hknown
  exact ⟨target, hd.objectType?_eq_some_iff.mp htarget⟩

/-- Relation fields are told apart by their names and the names of their types. -/
theorem eq_of_names_eq {p q : ObjectType × Field} (hp : p ∈ d.relationFields)
    (hq : q ∈ d.relationFields) (htype : p.1.name = q.1.name) (hfield : p.2.name = q.2.name) :
    p = q := by
  obtain ⟨t, f⟩ := p
  obtain ⟨u, g⟩ := q
  obtain ⟨ht, hf⟩ := mem_relationFields.mp hp
  obtain ⟨hu, hg⟩ := mem_relationFields.mp hq
  obtain rfl : t = u := List.eq_of_map_nodup hd.objectNames_nodup ht hu htype
  obtain rfl : f = g := List.eq_of_map_nodup (hd.fieldNames_nodup t ht)
    (mem_relationFields_type.mp hf).1 (mem_relationFields_type.mp hg).1 hfield
  rfl

/-- The relation fields of a type do not repeat. -/
theorem relationFields_nodup_type {t : ObjectType} (ht : t ∈ d.objectTypes) :
    t.relationFields.Nodup :=
  (List.Nodup.of_map _ (hd.fieldNames_nodup t ht)).filter _

/-- No relation field is listed twice. -/
theorem relationFields_nodup : d.relationFields.Nodup := by
  refine List.nodup_flatMap.mpr ⟨fun t ht => ?_, ?_⟩
  · exact (hd.relationFields_nodup_type ht).map fun f g h => (Prod.mk.inj h).2
  · refine (List.Nodup.of_map _ hd.objectNames_nodup).imp fun {t u} htu => ?_
    intro p hp hq
    obtain ⟨f, -, rfl⟩ := List.mem_map.mp hp
    obtain ⟨g, -, hg⟩ := List.mem_map.mp hq
    exact htu (Prod.mk.inj hg).1.symm

end Valid

end Document

end DataModel
