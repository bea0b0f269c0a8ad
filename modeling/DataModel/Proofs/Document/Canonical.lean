import DataModel.Document.Canonical
import DataModel.Proofs.Hash.Sha256
import DataModel.Proofs.Json.RoundTrip

/-!
# The canonical text says which document it is

A document is read back from its JSON form, part by part: an omitted option is read as absent and an
omitted list as empty, and an option that is not omitted is not null. As long as no default is a
binary64 number the JSON form is exact, and so it is read back from its text in turn. An infinite
default has the text `null`, whatever its sign.

## Main results

* `Document.ofJson?_toJson`: every document is read back from its JSON form.
* `Document.isExact_toJson`: the JSON form of a document without binary64 defaults is exact.
* `Document.ofText?_canonicalText`: such a document is read back from its canonical text.
* `Document.canonicalText_faithful`: **the canonical text says which document it is, and documents
  with one fingerprint are one document or a collision**.
-/

namespace DataModel

/-! ## Parts of an object -/

section Parts

variable {α : Type} {decode : Json → Option α} (encode : α → Json) {key : String}

/-- An entry that may be omitted is found under its key if it is there. -/
@[simp]
theorem lookup_optionalEntry (o : Option α) (k : String) :
    (optionalEntry key encode o).lookup k = if k = key then o.map encode else none := by
  by_cases hk : k = key
  · cases o <;> simp [optionalEntry, hk]
  · cases o <;> simp [optionalEntry, List.lookup_cons, beq_false_of_ne hk, hk]

/-- An entry of a list that may be omitted is found under its key if it is there. -/
@[simp]
theorem lookup_nonemptyEntry (l : List α) (k : String) :
    (nonemptyEntry key encode l).lookup k =
      if k = key ∧ l ≠ [] then some (.array (l.map encode)) else none := by
  by_cases hk : k = key
  · cases l <;> simp [nonemptyEntry, hk]
  · cases l <;> simp [nonemptyEntry, List.lookup_cons, beq_false_of_ne hk, hk]

/-- An entry that may be omitted is decoded to what it was. -/
theorem optionalEntry?_of_lookup {entries : List (String × Json)} {o : Option α}
    (hlookup : entries.lookup key = o.map encode)
    (hdecode : ∀ a ∈ o, encode a ≠ .null ∧ decode (encode a) = some a) :
    Json.optionalEntry? decode key (.object entries) = some o := by
  cases o with
  | none => simp [Json.optionalEntry?, Json.get?, hlookup]
  | some a =>
    obtain ⟨hnull, hread⟩ := hdecode a rfl
    simp [Json.optionalEntry?, Json.get?, hlookup, hread]

/-- An encoded list is decoded item by item. -/
theorem list?_map {l : List α} (hdecode : ∀ a ∈ l, decode (encode a) = some a) :
    Json.list? decode (.array (l.map encode)) = some l := by
  induction l with
  | nil => rfl
  | cons a l ih =>
    have ha := hdecode a List.mem_cons_self
    have hl := ih fun b hb => hdecode b (List.mem_cons_of_mem a hb)
    simp only [Json.list?] at hl
    simp [Json.list?, ha, hl]

/-- A list of strings is decoded to what it was. -/
@[simp]
theorem list?_stringsToJson (l : List String) :
    Json.list? Json.string? (stringsToJson l) = some l :=
  list?_map .string fun _ _ => rfl

/-- A string that may be omitted is decoded to what it was. -/
theorem optionalString?_of_lookup {entries : List (String × Json)} {o : Option String}
    (hlookup : entries.lookup key = o.map .string) :
    Json.optionalEntry? Json.string? key (.object entries) = some o :=
  optionalEntry?_of_lookup .string hlookup fun _ _ => ⟨nofun, rfl⟩

/-- A list that may be omitted is decoded to what it was. -/
theorem entryOr?_of_lookup {entries : List (String × Json)} {l : List α}
    (hlookup : entries.lookup key = if l ≠ [] then some (.array (l.map encode)) else none)
    (hdecode : ∀ a ∈ l, decode (encode a) = some a) :
    Json.entryOr? [] (Json.list? decode) key (.object entries) = some l := by
  simp only [Json.entryOr?, Json.get?, hlookup]
  by_cases hl : l = []
  · simp [hl]
  · simp [hl, list?_map encode hdecode]

/-- An entry that may be omitted is exact if it is when it is there. -/
theorem isExact_of_mem_optionalEntry {o : Option α} (h : ∀ a ∈ o, (encode a).IsExact) :
    ∀ e ∈ optionalEntry key encode o, e.2.IsExact := by
  cases o with
  | none => nofun
  | some a => simpa [optionalEntry] using h

/-- An entry of a list that may be omitted is exact if the items are. -/
theorem isExact_of_mem_nonemptyEntry {l : List α} (h : ∀ a ∈ l, (encode a).IsExact) :
    ∀ e ∈ nonemptyEntry key encode l, e.2.IsExact := by
  cases l with
  | nil => nofun
  | cons a l => simpa [nonemptyEntry] using h

/-- A list of strings is exact. -/
@[simp]
theorem isExact_stringsToJson (l : List String) : (stringsToJson l).IsExact := by
  simp [stringsToJson]

end Parts

/-! ## Integers -/

/-- An integer with sign fits 64 bits. -/
@[simp]
theorem fitsInt64_toInt (n : Int64) : fitsInt64 n.toInt := by
  have hle := n.le_toInt
  have hlt := n.toInt_lt
  simp only [fitsInt64, Bool.and_eq_true, decide_eq_true_eq]
  omega

/-- An integer without sign fits 32 bits. -/
@[simp]
theorem fitsUInt32_toNat (n : UInt32) : fitsUInt32 n.toNat := by
  have hlt := n.toNat_lt
  simp only [fitsUInt32, Bool.and_eq_true, decide_eq_true_eq]
  omega

/-- An integer of 32 bits fits 64. -/
@[simp]
theorem fitsUInt64_toNat (n : UInt32) : fitsUInt64 n.toNat := by
  have hlt := n.toNat_lt
  simp only [fitsUInt64, Bool.and_eq_true, decide_eq_true_eq]
  omega

/-! ## Parts of a document -/

/-- A kind is read back. -/
theorem FieldKind.ofJson?_toJson (k : FieldKind) : ofJson? k.toJson = some k := by
  cases k with
  | scalar s => cases s <;> rfl
  | enum => rfl
  | relation => rfl

/-- A default is read back. -/
theorem DefaultValue.ofJson?_toJson (v : DefaultValue) : ofJson? v.toJson = some v := by
  cases v with
  | string s => rfl
  | int n =>
    simp [toJson, ofJson?, Json.entry?, Json.get?, Json.string?, Json.int64?, List.lookup_cons]
  | float x => rfl
  | boolean b => rfl
  | enum s => rfl

/-- The form of a default is not null. -/
theorem DefaultValue.toJson_ne_null (v : DefaultValue) : v.toJson ≠ .null := by
  cases v <;> nofun

/-- The options of a field are read back. -/
theorem FieldOptions.ofJson?_toJson (o : FieldOptions) : ofJson? o.toJson = some o := by
  have hdefault : Json.optionalEntry? DefaultValue.ofJson? "default_value" o.toJson =
      some o.defaultValue :=
    optionalEntry?_of_lookup DefaultValue.toJson (by simp [List.lookup_append]) fun v _ =>
      ⟨v.toJson_ne_null, v.ofJson?_toJson⟩
  have hlength : Json.optionalEntry? Json.uint32? "max_length" o.toJson = some o.maxLength :=
    optionalEntry?_of_lookup (fun n => .int n.toNat) (by simp [List.lookup_append]) fun n _ =>
      ⟨nofun, by simp [Json.uint32?]⟩
  have hrelation : Json.optionalEntry? Json.string? "relation_name" o.toJson =
      some o.relationName :=
    optionalString?_of_lookup (by simp [List.lookup_append])
  unfold toJson at hdefault hlength hrelation ⊢
  simp only [ofJson?, hdefault, hlength, hrelation]
  rfl

/-- A constraint is read back. -/
theorem UniqueConstraint.ofJson?_toJson (c : UniqueConstraint) : ofJson? c.toJson = some c := by
  have hname : Json.optionalEntry? Json.string? "name" c.toJson = some c.name :=
    optionalString?_of_lookup (by simp [List.lookup_append, List.lookup_cons])
  have hfields : Json.entry? (Json.list? Json.string?) "fields" c.toJson = some c.fields := by
    simp [toJson, Json.entry?, Json.get?, List.lookup_append]
  simp [ofJson?, hname, hfields]

/-- An index is read back. -/
theorem Index.ofJson?_toJson (i : Index) : ofJson? i.toJson = some i := by
  have hname : Json.optionalEntry? Json.string? "name" i.toJson = some i.name :=
    optionalString?_of_lookup (by simp [List.lookup_append, List.lookup_cons])
  have hfields : Json.entry? (Json.list? Json.string?) "fields" i.toJson = some i.fields := by
    simp [toJson, Json.entry?, Json.get?, List.lookup_append]
  have htype : Json.optionalEntry? Json.string? "index_type" i.toJson = some i.indexType :=
    optionalString?_of_lookup (by simp [List.lookup_append, List.lookup_cons])
  simp [ofJson?, hname, hfields, htype]

/-- The options of a type are read back. -/
theorem TypeOptions.ofJson?_toJson (o : TypeOptions) : ofJson? o.toJson = some o := by
  have hconstraints : Json.entryOr? [] (Json.list? UniqueConstraint.ofJson?) "unique_constraints"
      o.toJson = some o.uniqueConstraints :=
    entryOr?_of_lookup UniqueConstraint.toJson (by simp [List.lookup_append]) fun c _ =>
      c.ofJson?_toJson
  have hindexes : Json.entryOr? [] (Json.list? Index.ofJson?) "indexes" o.toJson =
      some o.indexes :=
    entryOr?_of_lookup Index.toJson (by simp [List.lookup_append]) fun i _ => i.ofJson?_toJson
  unfold toJson at hconstraints hindexes ⊢
  simp only [ofJson?, hconstraints, hindexes]
  rfl

/-- A field is read back. -/
theorem Field.ofJson?_toJson (f : Field) : ofJson? f.toJson = some f := by
  simp [ofJson?, toJson, Json.entry?, Json.entryOr?, Json.get?, List.lookup_cons, Json.string?,
    Json.bool?, FieldKind.ofJson?_toJson, FieldOptions.ofJson?_toJson]

/-- An object type is read back. -/
theorem ObjectType.ofJson?_toJson (t : ObjectType) : ofJson? t.toJson = some t := by
  have hfields : Json.list? Field.ofJson? (.array (t.fields.map Field.toJson)) = some t.fields :=
    list?_map Field.toJson fun f _ => f.ofJson?_toJson
  simp [ofJson?, toJson, Json.entry?, Json.entryOr?, Json.get?, List.lookup_cons, Json.string?,
    hfields, TypeOptions.ofJson?_toJson]

/-- An enum type is read back. -/
theorem EnumType.ofJson?_toJson (e : EnumType) : ofJson? e.toJson = some e := by
  simp [ofJson?, toJson, Json.entry?, Json.get?, List.lookup_cons, Json.string?]

namespace Document

/-- Every document is read back from its JSON form. -/
theorem ofJson?_toJson (d : Document) : ofJson? d.toJson = some d := by
  have htypes : Json.list? ObjectType.ofJson? (.array (d.objectTypes.map ObjectType.toJson)) =
      some d.objectTypes := list?_map ObjectType.toJson fun t _ => t.ofJson?_toJson
  have henums : Json.list? EnumType.ofJson? (.array (d.enumTypes.map EnumType.toJson)) =
      some d.enumTypes := list?_map EnumType.toJson fun e _ => e.ofJson?_toJson
  simp [ofJson?, toJson, Json.entry?, Json.get?, List.lookup_cons, htypes, henums]

end Document

/-! ## Exactness -/

/-- Whether the default is a binary64 number. -/
def DefaultValue.isFloat : DefaultValue → Bool
  | .float _ => true
  | _ => false

/-- A default that is no binary64 number is exact. -/
theorem DefaultValue.isExact_toJson {v : DefaultValue} (hv : v.isFloat = false) :
    v.toJson.IsExact := by
  cases v with
  | int n => simp [toJson, Json.IsExact.int (.inl (fitsInt64_toInt n))]
  | float x => nomatch hv
  | string s | boolean b | enum s => simp [toJson]

/-- The form of a kind is exact. -/
@[simp]
theorem FieldKind.isExact_toJson (k : FieldKind) : k.toJson.IsExact := by
  cases k <;> simp [toJson]

/-- The options of a field are exact if the default is. -/
theorem FieldOptions.isExact_toJson {o : FieldOptions}
    (hdefault : ∀ v ∈ o.defaultValue, v.isFloat = false) : o.toJson.IsExact := by
  refine .object (List.forall_mem_append.mpr ⟨List.forall_mem_append.mpr ⟨?_, ?_⟩, ?_⟩)
  · exact isExact_of_mem_optionalEntry _ fun v hv => v.isExact_toJson (hdefault v hv)
  · exact isExact_of_mem_optionalEntry _ fun n _ => .int (.inr (fitsUInt64_toNat n))
  · exact isExact_of_mem_optionalEntry _ fun s _ => .string s

/-- The form of a constraint is exact. -/
theorem UniqueConstraint.isExact_toJson (c : UniqueConstraint) : c.toJson.IsExact := by
  refine .object (List.forall_mem_append.mpr ⟨?_, by simp⟩)
  exact isExact_of_mem_optionalEntry _ fun s _ => .string s

/-- The form of an index is exact. -/
theorem Index.isExact_toJson (i : Index) : i.toJson.IsExact := by
  refine .object (List.forall_mem_append.mpr ⟨List.forall_mem_append.mpr ⟨?_, by simp⟩, ?_⟩)
  · exact isExact_of_mem_optionalEntry _ fun s _ => .string s
  · exact isExact_of_mem_optionalEntry _ fun s _ => .string s

/-- The options of a type are exact. -/
@[simp]
theorem TypeOptions.isExact_toJson (o : TypeOptions) : o.toJson.IsExact := by
  refine .object (List.forall_mem_append.mpr ⟨?_, ?_⟩)
  · exact isExact_of_mem_nonemptyEntry _ fun c _ => c.isExact_toJson
  · exact isExact_of_mem_nonemptyEntry _ fun i _ => i.isExact_toJson

/-- A field is exact if its default is. -/
theorem Field.isExact_toJson {f : Field}
    (hdefault : ∀ v ∈ f.options.defaultValue, v.isFloat = false) : f.toJson.IsExact := by
  have hoptions := FieldOptions.isExact_toJson hdefault
  simp [toJson, hoptions]

namespace Document

/-- No field has a binary64 number as its default. -/
def NoFloatDefault (d : Document) : Prop :=
  ∀ t ∈ d.objectTypes, ∀ f ∈ t.fields, ∀ v ∈ f.options.defaultValue, v.isFloat = false

instance (d : Document) : Decidable d.NoFloatDefault :=
  inferInstanceAs (Decidable (∀ t ∈ d.objectTypes, ∀ f ∈ t.fields, ∀ v ∈ f.options.defaultValue,
    v.isFloat = false))

/-- The JSON form of a document without binary64 defaults is exact. -/
theorem isExact_toJson {d : Document} (hd : d.NoFloatDefault) : d.toJson.IsExact := by
  have htypes : ∀ t ∈ d.objectTypes, t.toJson.IsExact := by
    intro t ht
    have hfields : ∀ f ∈ t.fields, f.toJson.IsExact := fun f hf => f.isExact_toJson (hd t ht f hf)
    simpa [ObjectType.toJson] using hfields
  simpa [toJson, EnumType.toJson] using htypes

/-- Such a document is read back from its canonical text. -/
theorem ofText?_canonicalText {d : Document} (hd : d.NoFloatDefault) :
    ofText? d.canonicalText = some d := by
  rw [ofText?, canonicalText, Json.parse_render (isExact_toJson hd), Option.bind_some,
    ofJson?_toJson]

/-- Documents without binary64 defaults are one document if they have one canonical text. -/
theorem eq_of_canonicalText_eq {d d' : Document} (hd : d.NoFloatDefault) (hd' : d'.NoFloatDefault)
    (h : d.canonicalText = d'.canonicalText) : d = d' := by
  apply Option.some.inj
  rw [← ofText?_canonicalText hd, h, ofText?_canonicalText hd']

/-- **The canonical text says which document it is**: a document without binary64 defaults is read
back from it, another such document has another text, and if it has the same fingerprint, the two
texts are a collision of the hash function. -/
theorem canonicalText_faithful {d : Document} (hd : d.NoFloatDefault) :
    ofText? d.canonicalText = some d ∧
      ∀ d' : Document, d'.NoFloatDefault →
        (d.canonicalText = d'.canonicalText → d = d') ∧
        (d ≠ d' → d.fingerprint = d'.fingerprint →
          Sha256.Collision d.canonicalText.toUTF8.toList d'.canonicalText.toUTF8.toList) := by
  refine ⟨ofText?_canonicalText hd, fun d' hd' => ⟨eq_of_canonicalText_eq hd hd', ?_⟩⟩
  intro hne hfingerprint
  exact Sha256.collision_of_hex_eq (fun htext => hne (eq_of_canonicalText_eq hd hd' htext))
    hfingerprint

/-- Notes with a default of every kind that is no binary64 number, among them a text with a quote, a
backslash and control characters, and the least integer. -/
def notes (lengthOfText : Option UInt32) : Document where
  objectTypes := [
    .of "Note" [
      { name := "id", typeName := "ID", kind := .scalar .id, required := true },
      { name := "text", typeName := "String", kind := .scalar .string
        options := {
          defaultValue := some (.string "\"\\\n\u0001é")
          maxLength := lengthOfText } },
      { name := "rank", typeName := "Int", kind := .scalar .int
        options := { defaultValue := some (.int (-9223372036854775808)) } },
      { name := "open", typeName := "Boolean", kind := .scalar .boolean
        options := { defaultValue := some (.boolean true) } },
      { name := "tone", typeName := "Tone", kind := .enum
        options := { defaultValue := some (.enum "PLAIN") } },
      { name := "answers", typeName := "Note", kind := .relation, list := true
        options := { relationName := some "Answers" } }]
      { uniqueConstraints := [{ name := some "once", fields := ["text", "rank"] }]
        indexes := [{ fields := ["rank"], indexType := some "HASH" }] }]
  enumTypes := [⟨"Tone", ["PLAIN", "LOUD"]⟩]

/-- Notes are read back, with a limit on their text or without, and the limit shows. -/
theorem notes_faithful :
    (notes none).NoFloatDefault ∧ (notes (some 80)).NoFloatDefault ∧
      ofText? (notes none).canonicalText = some (notes none) ∧
      (notes none).canonicalText ≠ (notes (some 80)).canonicalText ∧
      ((notes none).fingerprint = (notes (some 80)).fingerprint →
        Sha256.Collision (notes none).canonicalText.toUTF8.toList
          (notes (some 80)).canonicalText.toUTF8.toList) := by
  have hnone : (notes none).NoFloatDefault := by decide
  have hsome : (notes (some 80)).NoFloatDefault := by decide
  have hne : notes none ≠ notes (some 80) := by decide
  obtain ⟨hread, hothers⟩ := canonicalText_faithful hnone
  obtain ⟨htext, hfingerprint⟩ := hothers _ hsome
  exact ⟨hnone, hsome, hread, fun h => hne (htext h), hfingerprint hne⟩

end Document

end DataModel
