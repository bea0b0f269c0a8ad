import DataModel.Proofs.Document.Lowering
import DataModel.Proofs.TokenParser
import DataModel.Sdl.Parser

/-!
# The names of a schema document

Whatever a schema document declares, it declares under a name: types, fields and enum values take
their names from tokens. So the names in a document that is read off a text have the form of names,
where a document that is built otherwise may have any texts for them. The name of a constraint is
none of them, since it is a string or an enum literal in a directive.

## Main results

* `Sdl.Grammar.definition_yields`: a definition that is read off tokens declares names.
* `Sdl.namesSpelled_of_toDocument`: **the names in a document that is read off a text** have the
  form of names.
-/

namespace DataModel

/-! ### The grammar -/

namespace Sdl

open DataModel.Parser

/-- The names that a definition declares have the form of names. -/
def RawDefinition.NamesSpelled : RawDefinition → Prop
  | .object name fields _ => isName name = true ∧ ∀ f ∈ fields, isName f.name = true
  | .enum name values => isName name = true ∧ ∀ v ∈ values, isName v = true
  | .other => True

namespace Grammar

/-! ### Values and directives -/

theorem leaf_keeps : leaf.Keeps := by
  refine next_yields.bind fun t _ => ?_
  split
  case h_1 => exact .pure trivial
  case h_2 => exact .pure trivial
  case h_3 n _ =>
    cases numericValue n with
    | some v => exact .pure trivial
    | none => exact .failure
  case h_4 => exact name_yields.bind fun _ _ => .pure trivial
  case h_5 => exact .failure

theorem valueUpTo_keeps (n : Nat) : (valueUpTo n).Keeps := by
  induction n with
  | zero => exact .failure
  | succ n ih =>
      unfold valueUpTo
      refine .orElse leaf_keeps (.orElse ?list ?object)
      case list =>
        exact (punctuator_keeps _).bind fun _ _ => ih.many.bind fun _ _ =>
          (punctuator_keeps _).bind fun _ _ => .pure trivial
      case object =>
        have hentry : Parser.Keeps (do
            let key ← name
            punctuator ':'
            let value ← valueUpTo n
            return (key, value)) :=
          name_yields.bind fun _ _ => (punctuator_keeps _).bind fun _ _ => ih.bind fun _ _ =>
            .pure trivial
        exact (punctuator_keeps _).bind fun _ _ => hentry.many.bind fun _ _ =>
          (punctuator_keeps _).bind fun _ _ => .pure trivial

theorem value_keeps : value.Keeps := fun ts => valueUpTo_keeps ts.length ts

theorem constant_keeps : constant.Keeps :=
  value_keeps.bind fun _ _ => .ite (.pure trivial) .failure

theorem argument_keeps : argument.Keeps :=
  name_yields.bind fun _ _ => (punctuator_keeps _).bind fun _ _ => value_keeps.bind fun _ _ =>
    .pure trivial

theorem directive_keeps : directive.Keeps :=
  (punctuator_keeps _).bind fun _ _ => name_yields.bind fun _ _ =>
    ((punctuator_keeps _).bind fun _ _ => argument_keeps.many1.bind fun _ _ =>
      (punctuator_keeps _).bind fun _ _ => .pure trivial).keeps.maybe.bind fun _ _ => .pure trivial

theorem directives_keeps : directives.Keeps := directive_keeps.many.keeps

theorem braces_yields {α : Type} {p : Parser α} {P : α → Prop} (h : p.Yields P) :
    (braces p).Yields fun as => ∀ a ∈ as, P a :=
  (punctuator_keeps _).bind fun _ _ => h.many1.bind fun _ has =>
    (punctuator_keeps _).bind fun _ _ => .pure has

/-! ### Parts of definitions -/

theorem description_keeps : description.Keeps :=
  string_keeps.maybe.bind fun _ _ => .pure trivial

theorem inputValue_keeps : inputValue.Keeps :=
  description_keeps.bind fun _ _ => name_yields.bind fun _ _ => (punctuator_keeps _).bind fun _ _ =>
    type_keeps.bind fun _ _ =>
      ((punctuator_keeps _).bind fun _ _ => constant_keeps).maybe.bind fun _ _ =>
        directives_keeps.bind fun _ _ => .pure trivial

theorem argumentDefinitions_keeps : argumentDefinitions.Keeps :=
  ((punctuator_keeps _).bind fun _ _ => inputValue_keeps.many1.bind fun _ _ =>
    punctuator_keeps _).maybe.bind fun _ _ => .pure trivial

theorem field_yields : field.Yields (isName ·.name = true) :=
  description_keeps.bind fun _ _ => name_yields.bind fun _ hname =>
    argumentDefinitions_keeps.bind fun _ _ => (punctuator_keeps _).bind fun _ _ =>
      type_keeps.bind fun _ _ => directives_keeps.bind fun _ _ => .pure hname

theorem enumValue_yields : enumValue.Yields (isName · = true) :=
  description_keeps.bind fun _ _ => name_yields.bind fun _ hname =>
    directives_keeps.bind fun _ _ => .pure hname

theorem implementedInterfaces_keeps : implementedInterfaces.Keeps :=
  ((keyword_keeps _).bind fun _ _ => separatedNames_keeps _).maybe.keeps

/-- What an option holds satisfies what its value is known to satisfy. -/
theorem forall_mem_getD {α : Type} {P : α → Prop} {o : Option (List α)}
    (h : ∀ as, o = some as → ∀ a ∈ as, P a) : ∀ a ∈ o.getD [], P a := by
  cases o with
  | none => simp
  | some as => exact h as rfl

theorem objectBody_yields : objectBody.Yields (·.NamesSpelled) :=
  name_yields.bind fun _ hname => implementedInterfaces_keeps.bind fun _ _ =>
    directives_keeps.bind fun _ _ => (braces_yields field_yields).maybe.bind fun _ hfields =>
      .pure ⟨hname, forall_mem_getD hfields⟩

theorem enumBody_yields : enumBody.Yields (·.NamesSpelled) :=
  name_yields.bind fun _ hname => directives_keeps.bind fun _ _ =>
    (braces_yields enumValue_yields).maybe.bind fun _ hvalues =>
      .pure ⟨hname, forall_mem_getD hvalues⟩

theorem unionBody_keeps : unionBody.Keeps :=
  name_yields.bind fun _ _ => directives_keeps.bind fun _ _ =>
    ((punctuator_keeps _).bind fun _ _ => separatedNames_keeps _).maybe.bind fun _ _ =>
      .pure trivial

theorem inputBody_keeps : inputBody.Keeps :=
  name_yields.bind fun _ _ => directives_keeps.bind fun _ _ =>
    (braces_yields inputValue_keeps).maybe.bind fun _ _ => .pure trivial

theorem directiveLocation_keeps : directiveLocation.Keeps :=
  name_yields.bind fun _ _ => .ite (.pure trivial) .failure

theorem directiveLocationList_keeps : directiveLocationList.Keeps := by
  have hrest : directiveLocationList.rest.Keeps :=
    directiveLocation_keeps.bind fun _ _ =>
      ((punctuator_keeps _).bind fun _ _ => directiveLocation_keeps).many.bind fun _ _ =>
        .pure trivial
  intro ts u rest hts h
  unfold directiveLocationList at h
  split at h
  case h_1 => exact Yields.pure (P := fun _ => True) trivial _ _ _ hts h
  case h_2 => exact hrest _ _ _ hts h
  case h_3 => exact hrest _ _ _ (Token.namesSpelled_cons.mp hts).2 h
  case h_4 => exact Yields.pure (P := fun _ => True) trivial _ _ _ hts h

theorem directiveBody_keeps : directiveBody.Keeps :=
  (punctuator_keeps _).bind fun _ _ => name_yields.bind fun _ _ =>
    argumentDefinitions_keeps.bind fun _ _ => (keyword_keeps _).maybe.bind fun _ _ =>
      (keyword_keeps _).bind fun _ _ => directiveLocationList_keeps

theorem schemaBody_keeps : schemaBody.Keeps :=
  directives_keeps.bind fun _ _ => (punctuator_keeps _).bind fun _ _ =>
    (name_yields.bind fun _ _ => (punctuator_keeps _).bind fun _ _ => name_yields.bind fun _ _ =>
      .pure trivial).keeps.many.bind fun _ _ => (punctuator_keeps _).bind fun _ _ =>
        .ite (.pure trivial) .failure

theorem extensionAdds_keeps (kind : String) : (extensionAdds kind).Keeps :=
  have hadds : ∀ {α : Type} {p : Parser α}, p.Keeps →
      Parser.Keeps (do return (← maybe p).isSome) :=
    fun h => h.maybe.bind fun _ _ => .pure trivial
  .ite (hadds (braces_yields field_yields).keeps) <|
    .ite (hadds ((punctuator_keeps _).bind fun _ _ => separatedNames_keeps _)) <|
      .ite (hadds (braces_yields enumValue_yields).keeps) <|
        .ite (hadds (braces_yields inputValue_keeps).keeps) <| .ite (.pure trivial) .failure

theorem extensionBody_keeps : extensionBody.Keeps := by
  refine name_yields.bind fun kind _ => name_yields.bind fun _ _ => ?_
  have hrest : ∀ interfaces : Option (List String), Parser.Keeps (do
      let directives ← directives
      let adds ← extensionAdds kind
      if adds || interfaces.isSome || !directives.isEmpty then return () else failure) := fun _ =>
    directives_keeps.bind fun _ _ => (extensionAdds_keeps kind).bind fun _ _ =>
      .ite (.pure trivial) .failure
  exact .ite (implementedInterfaces_keeps.bind fun _ _ => hrest _)
    (.bind (P := fun _ => True) (.pure trivial) fun _ _ => hrest _)

/-! ### Definitions -/

/-- A definition that is passed over has no names. -/
theorem other_yields {α : Type} {p : Parser α} (h : p.Keeps) :
    Parser.Yields (do let _ ← p; return RawDefinition.other) (·.NamesSpelled) :=
  h.bind fun _ _ => .pure trivial

theorem describedBody_yields (keyword : String) :
    (describedBody keyword).Yields (·.NamesSpelled) :=
  .ite objectBody_yields <| .ite enumBody_yields <| .ite (other_yields objectBody_yields.keeps) <|
    .ite (name_yields.bind fun _ _ => other_yields directives_keeps) <|
      .ite (other_yields unionBody_keeps) <| .ite (other_yields inputBody_keeps) <|
        .ite (other_yields directiveBody_keeps) .failure

/-- **A definition that is read off tokens** whose names have the form of names declares such
names. -/
theorem definition_yields : definition.Yields (·.NamesSpelled) :=
  string_keeps.maybe.bind fun _ _ => name_yields.bind fun _ _ =>
    .ite (other_yields schemaBody_keeps) <| .ite (other_yields extensionBody_keeps) <|
      describedBody_yields _

/-- The definitions of a text declare names that have the form of names. -/
theorem namesSpelled_of_document {lexicon : Lexicon} {text : String}
    {definitions : List RawDefinition}
    (h : (Token.scan lexicon text).bind document = some definitions) :
    ∀ d ∈ definitions, d.NamesSpelled := by
  obtain ⟨ts, hts, hdocument⟩ := Option.bind_eq_some_iff.mp h
  unfold document at hdocument
  split at hdocument
  case h_1 ds hread =>
    obtain rfl := Option.some.inj hdocument
    exact (definition_yields.many1 ts ds [] (Token.namesSpelled_of_scan hts) hread).1
  case h_2 => cases hdocument

end Grammar

/-! ### The document -/

/-- The names that a definition declares have the form of names. -/
def Definition.NamesSpelled : Definition → Prop
  | .object o => isName o.name = true ∧ ∀ f ∈ o.fields, isName f.name = true
  | .enum e => isName e.name = true ∧ ∀ v ∈ e.values, isName v = true

/-- A field keeps its name when its directives are read. -/
theorem name_of_toField {f : RawField} {g : FieldDefinition} (h : f.toField = .ok g) :
    g.name = f.name := by
  obtain ⟨_, -, hg⟩ := Except.bind_eq_ok_iff.mp h
  rw [← Except.pure_eq_ok_iff.mp hg]

/-- A definition keeps its names when its directives are read. -/
theorem namesSpelled_of_toDefinition? {r : RawDefinition} (hr : r.NamesSpelled) {d : Definition}
    (h : r.toDefinition? = .ok (some d)) : d.NamesSpelled := by
  cases r with
  | object name fields directives =>
      obtain ⟨gs, hgs, h⟩ := Except.bind_eq_ok_iff.mp h
      obtain ⟨_, -, h⟩ := Except.bind_eq_ok_iff.mp h
      obtain rfl := Option.some.inj (Except.pure_eq_ok_iff.mp h)
      refine ⟨hr.1, fun g hg => ?_⟩
      obtain ⟨f, hf, hfg⟩ := List.exists_mem_of_mapM_eq_ok hgs hg
      exact name_of_toField hfg ▸ hr.2 f hf
  | enum name values =>
      obtain rfl := Option.some.inj (Except.ok.inj h)
      exact hr
  | other => cases Except.ok.inj h

/-- The definitions of a schema document declare names that have the form of names. -/
theorem namesSpelled_of_parse {text : String} {schema : Schema} (h : parse text = .ok schema) :
    ∀ d ∈ schema.definitions, d.NamesSpelled := by
  unfold parse at h
  split at h
  case h_1 => cases h
  case h_2 definitions hread =>
    obtain ⟨kept, hkept, h⟩ := Except.bind_eq_ok_iff.mp h
    obtain rfl := Except.pure_eq_ok_iff.mp h
    intro d hd
    obtain ⟨_, ho, rfl⟩ := List.mem_filterMap.mp hd
    obtain ⟨r, hr, hrd⟩ := List.exists_mem_of_mapM_eq_ok hkept ho
    exact namesSpelled_of_toDefinition? (Grammar.namesSpelled_of_document hread r hr) hrd

end Sdl

namespace Document

/-- The names that a document declares have the form of names: those of its types, of their fields
and of the values of its enum types. -/
structure NamesSpelled (d : Document) : Prop where
  objects : ∀ t ∈ d.objectTypes, isName t.name = true
  fields : ∀ t ∈ d.objectTypes, ∀ f ∈ t.fields, isName f.name = true
  enums : ∀ e ∈ d.enumTypes, isName e.name = true
  values : ∀ e ∈ d.enumTypes, ∀ v ∈ e.values, isName v = true

end Document

namespace Sdl

variable {s : Schema}

/-- An object type of a schema document is among its definitions. -/
theorem mem_definitions_of_objects {o : ObjectDefinition} (h : o ∈ s.objects) :
    .object o ∈ s.definitions := by
  obtain ⟨d, hd, ho⟩ := List.mem_filterMap.mp h
  cases d with
  | object => exact Option.some.inj ho ▸ hd
  | enum => cases ho

/-- An enum type of a schema document is among its definitions. -/
theorem mem_definitions_of_enums {e : EnumDefinition} (h : e ∈ s.enums) :
    .enum e ∈ s.definitions := by
  obtain ⟨d, hd, he⟩ := List.mem_filterMap.mp h
  cases d with
  | object => cases he
  | enum => exact Option.some.inj he ▸ hd

/-- **The names in a document that is read off a text** have the form of names. -/
theorem namesSpelled_of_toDocument {text : String} (hparse : parse text = .ok s) {d : Document}
    (h : s.toDocument = .ok d) : d.NamesSpelled := by
  have hspelled := namesSpelled_of_parse hparse
  obtain ⟨hobjects, henums, -⟩ := of_toDocument h
  have htypes : ∀ t ∈ d.objectTypes,
      isName t.name = true ∧ ∀ f ∈ t.fields, isName f.name = true := by
    intro t ht
    obtain ⟨o, ho, hlower⟩ := List.exists_mem_of_mapM_eq_ok hobjects ht
    obtain ⟨ho, hof⟩ := hspelled _ (mem_definitions_of_objects ho)
    refine ⟨(Schema.lowerObject_eq_ok_iff.mp hlower).name ▸ ho, fun f hf => ?_⟩
    obtain ⟨g, hg, hgf⟩ := List.exists_mem_of_mapM_eq_ok (mapM_lowerField_of_lowerObject hlower) hf
    exact (Schema.lowerField_eq_ok_iff.mp hgf).name ▸ hof g hg
  have hlowered : ∀ e ∈ d.enumTypes, isName e.name = true ∧ ∀ v ∈ e.values, isName v = true := by
    intro e he
    obtain ⟨declared, hdeclared, rfl⟩ := List.mem_map.mp (henums ▸ he)
    exact hspelled _ (mem_definitions_of_enums hdeclared)
  exact
    { objects := fun t ht => (htypes t ht).1
      fields := fun t ht => (htypes t ht).2
      enums := fun e he => (hlowered e he).1
      values := fun e he => (hlowered e he).2 }

end Sdl

end DataModel
