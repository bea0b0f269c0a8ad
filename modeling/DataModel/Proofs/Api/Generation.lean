import DataModel.Api.Generation
import DataModel.Proofs.Api.Binding
import DataModel.Proofs.Sql.Script

/-!
# Defects do not arise

Some errors of the generators report what a data model cannot have once it is accepted and resolved:
a relation field on no relation, a type that is referred to but has no primary key, a constraint
over a field that is not there. Each of them is ruled out by a check that stands far from the place
that would report it. What remains are the faults of a design: names of the API that clash, or a
schema that is none.

## Main results

* `exists_objectOf`: the output type of every object type is built, with one field for each field.
* `uniqueInputs_failsOnly`, `generate_failsOnly`: building inputs and schemas reports no defect.
* `defectFree_of_resolve`: **no generator reports a defect** for an accepted document with its own
  relations.
-/

namespace DataModel

namespace Api

/-- The error says that the data model and its relations do not fit together. -/
def SchemaError.IsDefect : SchemaError → Prop
  | .unresolvedRelation .. | .missingPrimaryKey .. | .unknownConstraintField .. => True
  | .noObjectTypes | .labelCollision .. | .repeatedField .. | .invalidTypes .. => False

variable {d : Document} {set : RelationSet} {t : ObjectType}

/-! ### What is built -/

/-- A field is added at the end. -/
theorem of_addField_eq_ok {type : String} {fields fields' : List OutputField} {f : OutputField}
    (h : addField type fields f = .ok fields') : fields' = fields ++ [f] := by
  unfold addField at h
  split at h
  · cases h
  · exact (Except.ok.inj h).symm

/-- **The fields of an output type** are the output fields of the fields, in order. -/
theorem of_objectOf_eq_ok {type : ApiType} (h : objectOf d set t = .ok type) :
    ∃ fields, type = .object t.name fields ∧ t.fields.mapM (outputField d set t) = .ok fields := by
  obtain ⟨fields, hfields, htype⟩ := Except.bind_eq_ok_iff.mp h
  refine ⟨fields, (Except.pure_eq_ok_iff.mp htype).symm, List.mapM_eq_ok_iff.mpr ?_⟩
  refine List.foldlM_invariant
    (fun done => List.Forall₂ (fun f o => outputField d set t f = .ok o) done) ?_ hfields .nil
  intro done f _ fields fields' _ hdone hstep
  obtain ⟨o, ho, hadd⟩ := Except.bind_eq_ok_iff.mp hstep
  obtain rfl := of_addField_eq_ok hadd
  exact List.rel_append hdone (.cons ho .nil)

/-- An input type has the fields that it is built of. -/
theorem of_inputOf_eq_ok {name : String} {fields : List InputField} {type : ApiType}
    (h : inputOf name fields = .ok type) : type = .input name fields := by
  unfold inputOf at h
  split at h
  · cases h
  · exact (Except.ok.inj h).symm

/-- A field that a constraint names is found under that name. -/
theorem of_constraintField_eq_ok {name : String} {f : Field} (h : constraintField t name = .ok f) :
    f.name = name := by
  unfold constraintField at h
  split at h
  case h_1 g hg => exact Except.ok.inj h ▸ ObjectType.name_of_field? hg
  case h_2 => cases h

/-- The key field is the primary key. -/
theorem keyFields_names (t : ObjectType) :
    (keyFields t).map (·.name) = (t.primaryKey?.map (·.name)).toList := by
  unfold keyFields
  cases t.primaryKey? <;> rfl

/-! ### Output types -/

/-- Every field of a resolved document has an output field of its name. -/
theorem exists_outputField (h : set.Resolves d) (ht : t ∈ d.objectTypes) {f : Field}
    (hf : f ∈ t.fields) : ∃ o, outputField d set t f = .ok o ∧ o.name = f.name := by
  unfold outputField
  cases hkind : f.kind with
  | scalar s =>
      simp only [valueTypeName?, hkind]
      exact ⟨_, rfl, rfl⟩
  | enum =>
      simp only [valueTypeName?, hkind]
      exact ⟨_, rfl, rfl⟩
  | relation =>
      have hp : (t, f) ∈ d.relationFields :=
        Document.mem_relationFields.mpr ⟨ht, Document.mem_relationFields_type.mpr ⟨hf, hkind⟩⟩
      obtain ⟨r, side, -, hfind, hr, -⟩ := h.exists_relation hp
      obtain ⟨binding, hbinding⟩ := Binding.exists_of h hr side
      simp only [valueTypeName?, hkind, hfind, hbinding]
      exact ⟨_, rfl, rfl⟩

/-- A field is added to those of other names. -/
theorem addField_eq_ok {type : String} {fields : List OutputField} {f : OutputField}
    (h : f.name ∉ fields.map (·.name)) : addField type fields f = .ok (fields ++ [f]) := by
  refine if_neg fun hany => h ?_
  obtain ⟨g, hg, hname⟩ := List.any_eq_true.mp hany
  exact List.mem_map.mpr ⟨g, hg, by simpa using hname⟩

/-- The output field of the next field is added: the names so far are those of the fields behind,
and no name comes twice. -/
theorem exists_addField (h : set.Resolves d) (ht : t ∈ d.objectTypes) {done rest : List Field}
    {f : Field} (hl : t.fields = done ++ f :: rest) {fields : List OutputField}
    (hnames : fields.map (·.name) = done.map (·.name)) :
    ∃ fields' : List OutputField,
      (do addField t.name fields (← outputField d set t f)) = .ok fields' ∧
        fields'.map (·.name) = (done ++ [f]).map (·.name) := by
  obtain ⟨o, ho, hname⟩ := exists_outputField h ht (f := f) (by simp [hl])
  have hnew : o.name ∉ fields.map (·.name) := by
    have hnodup := h.valid.fieldNames_nodup t ht
    rw [hl, List.map_append, List.map_cons] at hnodup
    rw [hnames, hname]
    exact fun hmem => (List.nodup_append.mp hnodup).2.2 _ hmem _ List.mem_cons_self rfl
  exact ⟨_, Except.bind_eq_ok_iff.mpr ⟨o, ho, addField_eq_ok hnew⟩, by simp [hnames, hname]⟩

/-- **The output type** of every object type of a resolved document is built. -/
theorem exists_objectOf (h : set.Resolves d) (ht : t ∈ d.objectTypes) :
    ∃ fields, objectOf d set t = .ok (.object t.name fields) := by
  obtain ⟨fields, hfields⟩ := List.foldlM_succeeds
    (fun (done : List Field) (fields : List OutputField) =>
      fields.map (·.name) = done.map (·.name))
    (fun _ _ _ _ hl hnames => exists_addField h ht hl hnames) (s := []) rfl
  exact ⟨fields, Except.bind_eq_ok_iff.mpr ⟨fields, hfields, rfl⟩⟩

/-! ### Input types -/

/-- Making an input type reports no defect. -/
theorem inputOf_failsOnly (name : String) (fields : List InputField) :
    (inputOf name fields).FailsOnly (¬ ·.IsDefect) := by
  unfold inputOf
  cases firstRepeated? [] (fields.map (·.name)) with
  | some f => exact .error id
  | none => exact .of_eq_ok rfl

/-- Adding a field reports no defect. -/
theorem addField_failsOnly (type : String) (fields : List OutputField) (f : OutputField) :
    (addField type fields f).FailsOnly (¬ ·.IsDefect) := by
  unfold addField
  split
  · exact .error id
  · exact .of_eq_ok rfl

section Constraints

variable {fields : List String} (hfields : ∀ name ∈ fields, ∃ f, t.field? name = some f)
include hfields

/-- The fields that a constraint names are found. -/
theorem exists_constraintField {name : String} (hname : name ∈ fields) :
    ∃ f, constraintField t name = .ok f := by
  obtain ⟨f, hf⟩ := hfields name hname
  exact ⟨f, by simp only [constraintField, hf]⟩

/-- The nested input of a constraint reports no defect. -/
theorem nestedInput_failsOnly (label : String) :
    (nestedInput t label fields).FailsOnly (¬ ·.IsDefect) := by
  refine .bind (List.foldlM_failsOnly (fun name hname done => ?_) []) fun _ _ => .pure _
  obtain ⟨f, hf⟩ := exists_constraintField hfields hname
  refine .bind (.of_eq_ok hf) fun f _ => ?_
  split
  · exact .error id
  · exact .pure _

end Constraints

/-- A constraint over fields of the type reports no defect. -/
theorem constraintInput_failsOnly {c : UniqueConstraint}
    (hfields : ∀ name ∈ c.fields, ∃ f, t.field? name = some f) :
    (constraintInput t c).FailsOnly (¬ ·.IsDefect) := by
  unfold constraintInput
  split
  case h_1 single hsingle =>
    obtain ⟨f, hf⟩ := exists_constraintField hfields (show single ∈ c.fields by simp [hsingle])
    exact .bind (.of_eq_ok hf) fun f _ => .pure _
  case h_2 =>
    split
    · exact .error id
    · exact .bind (nestedInput_failsOnly hfields c.label) fun nested _ => .pure _

/-- **The inputs for single rows** report no defect where constraints are over fields of their
type. -/
theorem uniqueInputs_failsOnly
    (hconstraints : ∀ c ∈ t.options.uniqueConstraints, ∀ name ∈ c.fields,
      ∃ f, t.field? name = some f) :
    (uniqueInputs t).FailsOnly (¬ ·.IsDefect) := by
  refine .bind (List.mapM_failsOnly fun c hc => ?_) fun parts _ => ?_
  · exact constraintInput_failsOnly (hconstraints c hc)
  · exact .bind (inputOf_failsOnly _ _) fun input _ => .pure _

/-! ### The whole schema -/

section Schema

variable (hresolves : set.Resolves d)
  (hconstraints : ∀ t ∈ d.objectTypes, ∀ c ∈ t.options.uniqueConstraints, ∀ name ∈ c.fields,
    ∃ f, t.field? name = some f)
include hresolves hconstraints

/-- Adding an object type to a draft reports no defect. -/
theorem addObjectType_failsOnly (ht : t ∈ d.objectTypes) (draft : Draft) :
    (draft.addObjectType d set t).FailsOnly (¬ ·.IsDefect) := by
  obtain ⟨fields, hobject⟩ := exists_objectOf hresolves ht
  refine .bind (.of_eq_ok hobject) fun object _ => ?_
  refine .bind (inputOf_failsOnly _ _) fun list _ => ?_
  refine .bind (uniqueInputs_failsOnly (hconstraints t ht)) fun unique _ => ?_
  refine .bind (addField_failsOnly _ _ _) fun rootFields _ => ?_
  exact .bind (addField_failsOnly _ _ _) fun rootFields _ => .pure _

/-- **Generating a schema** reports no defect. -/
theorem generate_failsOnly : (Schema.generate d set).FailsOnly (¬ ·.IsDefect) := by
  unfold Schema.generate
  split
  · exact .error id
  · refine .bind (List.foldlM_failsOnly (fun t ht draft => ?_) _) fun draft _ => ?_
    · exact addObjectType_failsOnly hresolves hconstraints ht draft
    · split
      · exact .pure _
      · exact .error id

end Schema

/-- No generator reports a defect for the document with these relations. -/
structure DefectFree (d : Document) (set : RelationSet) : Prop where
  script : ∃ script, Sql.statements d set = .ok script
  bindings : ∀ r ∈ set.relations, ∀ side, ∃ binding, Binding.of d r side = .ok binding
  outputs : ∀ t ∈ d.objectTypes, ∃ fields, objectOf d set t = .ok (.object t.name fields)
  listInputs : ∀ t ∈ d.objectTypes, (whereInput t).FailsOnly (¬ ·.IsDefect)
  rowInputs : ∀ t ∈ d.objectTypes, (uniqueInputs t).FailsOnly (¬ ·.IsDefect)
  schema : (Schema.generate d set).FailsOnly (¬ ·.IsDefect)

/-- **No generator reports a defect** for an accepted document with its own relations: the
statements and all bindings exist, the output types are built, and neither the input types nor the
schema fail for a relation field without relation, a type without primary key or a constraint over
a field that is unknown. -/
theorem defectFree_of_resolve {objectTypes : List ObjectType} {enumTypes : List EnumType}
    (hd : Document.validated objectTypes enumTypes = .ok d) (h : RelationSet.resolve d = .ok set) :
    DefectFree d set := by
  have hset := RelationSet.resolves_of_resolve hd h
  have hconstraints : ∀ t ∈ d.objectTypes, ∀ c ∈ t.options.uniqueConstraints, ∀ name ∈ c.fields,
      ∃ f, t.field? name = some f := fun t ht c hc name hname => by
    obtain ⟨f, hf, -⟩ := Document.exists_constraintField_of_validated hd ht hc hname
    exact ⟨f, hf⟩
  exact
    { script := Sql.exists_statements hset
      bindings := fun r hr side => Binding.exists_of hset hr side
      outputs := fun t ht => exists_objectOf hset ht
      listInputs := fun t _ => inputOf_failsOnly _ _
      rowInputs := fun t ht => uniqueInputs_failsOnly (hconstraints t ht)
      schema := generate_failsOnly hset hconstraints }

end Api

/-! ### A directory -/

/-- A directory of people in teams. An address belongs to one person, and so do a first and a last
name together. -/
def Document.directory : Document where
  objectTypes :=
    [ .of "Team"
        [ { name := "id", typeName := "ID", kind := .scalar .id, required := true },
          { name := "members", typeName := "Person", kind := .relation, list := true } ] {},
      .of "Person"
        [ { name := "id", typeName := "ID", kind := .scalar .id, required := true },
          { name := "email", typeName := "String", kind := .scalar .string },
          { name := "first", typeName := "String", kind := .scalar .string },
          { name := "last", typeName := "String", kind := .scalar .string },
          { name := "role", typeName := "Role", kind := .enum },
          { name := "team", typeName := "Team", kind := .relation } ]
        { uniqueConstraints := [{ fields := ["email"] }, { fields := ["first", "last"] }] } ]
  enumTypes := [⟨"Role", ["LEAD", "MEMBER"]⟩]

/-- People are in one team, and a team has many. -/
def RelationSet.directory : RelationSet where
  relations := [⟨⟨"Team", "members", true, false⟩, ⟨"Person", "team", false, false⟩, none⟩]

/-- The directory is accepted and free of defects. -/
theorem Api.directory_defectFree :
    Document.validated Document.directory.objectTypes Document.directory.enumTypes =
        .ok .directory ∧
      RelationSet.resolve .directory = .ok .directory ∧ DefectFree .directory .directory := by
  have hd : Document.validated Document.directory.objectTypes Document.directory.enumTypes =
      .ok .directory := by decide +kernel
  have h : RelationSet.resolve .directory = .ok .directory := by decide +kernel
  exact ⟨hd, h, defectFree_of_resolve hd h⟩

end DataModel
