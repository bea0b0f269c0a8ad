import DataModel.Proofs.Document.Acceptance
import DataModel.Proofs.Number.Shortest
import DataModel.Proofs.Sql.Quoting
import DataModel.Proofs.Sql.Script

/-!
# Defaults as literals

A column definition ends in the default of its field, if the field has one. The database reads what
stands there as a literal: a text between quotes, a number with or without a point, or a truth
value. Of the defaults that a field may have all come out as literals that denote them but one:
an infinity, which a number beyond the range of the format is read as, has no literal. (Nor has NaN,
which no text of a document stands for and which `Binary64` leaves out.)

## Main results

* `Sql.read?_quoteLiteral`, `Sql.read?_intChars`, `Sql.read?_plainText`: texts, integers and finite
  numbers are read as literals that denote them.
* `Sql.exists_column_of_default`: the definition of a column ends in the default of its field.
* `Sql.default_denoted_iff`: **the default of a field is written as a literal that denotes it**
  exactly when it is no infinity.
-/

namespace DataModel

namespace Sql

open Json (natOfDigits digitRun)

/-! ### Literals -/

/-- A literal of the database. A number keeps its sign apart, since zero has one. -/
inductive Literal where
  | string (text : String)
  | integer (negative : Bool) (digits : ℕ)
  /-- The digits with the point before the last `places` of them. -/
  | decimal (negative : Bool) (digits places : ℕ)
  | truth (value : Bool)
  deriving DecidableEq

/-- Reads digits, with a point or without. There is a digit before or after the point. -/
def unsigned? (negative : Bool) (cs : List Char) : Option Literal :=
  match digitRun cs with
  | (whole, []) => if whole = [] then none else some (.integer negative (natOfDigits whole))
  | (whole, '.' :: rest) =>
    match digitRun rest with
    | (fraction, []) =>
      if whole ++ fraction = [] then none
      else some (.decimal negative (natOfDigits (whole ++ fraction)) fraction.length)
    | _ => none
  | _ => none

/-- Reads a number, with a sign or without. -/
def number? : List Char → Option Literal
  | '-' :: cs => unsigned? true cs
  | '+' :: cs => unsigned? false cs
  | cs => unsigned? false cs

/-- Reads a text that is a literal as a whole. -/
def Literal.read? (text : String) : Option Literal :=
  if text = "TRUE" then some (.truth true)
  else if text = "FALSE" then some (.truth false)
  else if text.toList.head? = some '\'' then
    match stringLiteral? text.toList with
    | some (s, []) => some (.string s)
    | _ => none
  else number? text.toList

/-- A literal denotes a default of a field of some kind: a text is denoted by itself, a number by the
decimal that stands there, rounded to the format for a binary64 number. -/
inductive Literal.Denotes (kind : FieldKind) : Literal → DefaultValue → Prop
  | string {s : String} (field : kind = .scalar .string ∨ kind = .scalar .dateTime) :
      Denotes kind (.string s) (.string s)
  | enum {s : String} {v : DefaultValue} (field : kind = .enum) (text : v.string? = some s) :
      Denotes kind (.string s) v
  | int {negative : Bool} {digits : ℕ} {n : Int64}
      (field : kind = .scalar .int ∨ kind = .scalar .float)
      (value : n.toInt = if negative then -(digits : ℤ) else digits) :
      Denotes kind (.integer negative digits) (.int n)
  | floatOfInteger {negative : Bool} {digits : ℕ} (field : kind = .scalar .float) :
      Denotes kind (.integer negative digits) (.float (.ofDecimal negative digits 0))
  | float {negative : Bool} {digits places : ℕ} (field : kind = .scalar .float) :
      Denotes kind (.decimal negative digits places) (.float (.ofDecimal negative digits (-places)))
  | boolean {b : Bool} (field : kind = .scalar .boolean) : Denotes kind (.truth b) (.boolean b)

/-! ### Reading numbers -/

section Numbers

variable {negative : Bool} {whole fraction : List Char}

/-- Digits alone are an integer. -/
theorem unsigned?_integer (hwhole : ∀ c ∈ whole, c.isDigit) (hne : whole ≠ []) :
    unsigned? negative whole = some (.integer negative (natOfDigits whole)) := by
  have hrun : digitRun (whole ++ []) = (whole, []) := Json.digitRun_append hwhole (by simp)
  rw [List.append_nil] at hrun
  simp [unsigned?, hrun, hne]

/-- Digits with a point between them are a decimal. -/
theorem unsigned?_decimal (hwhole : ∀ c ∈ whole, c.isDigit) (hne : whole ≠ [])
    (hfraction : ∀ c ∈ fraction, c.isDigit) :
    unsigned? negative (whole ++ '.' :: fraction) =
      some (.decimal negative (natOfDigits (whole ++ fraction)) fraction.length) := by
  have hrun : digitRun (whole ++ '.' :: fraction) = (whole, '.' :: fraction) :=
    Json.digitRun_append hwhole (by simp)
  have hrest : digitRun (fraction ++ []) = (fraction, []) := Json.digitRun_append hfraction (by simp)
  rw [List.append_nil] at hrest
  simp [unsigned?, hrun, hrest, hne]

/-- A number that starts with a digit has no sign. -/
theorem number?_of_isDigit {c : Char} (hc : c.isDigit) (cs : List Char) :
    number? (c :: cs) = unsigned? false (c :: cs) := by
  rw [number?.eq_def]
  split
  case h_1 heq =>
    obtain ⟨rfl, -⟩ := List.cons.inj heq
    nomatch hc
  case h_2 heq =>
    obtain ⟨rfl, -⟩ := List.cons.inj heq
    nomatch hc
  case h_3 => rfl

/-- What is read as a number is read as nothing else. -/
theorem read?_of_number? {cs : List Char} {l : Literal} (h : number? cs = some l) :
    Literal.read? (String.ofList cs) = some l := by
  have htrue : String.ofList cs ≠ "TRUE" := by
    intro heq
    obtain rfl : cs = "TRUE".toList := by rw [← heq, String.toList_ofList]
    nomatch h
  have hfalse : String.ofList cs ≠ "FALSE" := by
    intro heq
    obtain rfl : cs = "FALSE".toList := by rw [← heq, String.toList_ofList]
    nomatch h
  have hquote : cs.head? ≠ some '\'' := by
    intro heq
    obtain ⟨rest, rfl⟩ := List.head?_eq_some_iff.mp heq
    nomatch h
  rw [Literal.read?, if_neg htrue, if_neg hfalse, String.toList_ofList, if_neg hquote, h]

end Numbers

/-! ### Defaults that are denoted -/

/-- A quoted text is read as the text. -/
theorem read?_quoteLiteral (s : String) :
    Literal.read? (quoteLiteral s) = some (.string s) := by
  have hhead : (quoteLiteral s).toList.head? = some '\'' := by simp [quoteLiteral]
  have hread : stringLiteral? ((quoteLiteral s).toList ++ []) = some (s, []) :=
    stringLiteral?_quoteLiteral s (by simp)
  rw [List.append_nil] at hread
  have hne : ∀ c cs, c ≠ '\'' → quoteLiteral s ≠ String.ofList (c :: cs) := by
    intro c cs hc heq
    rw [heq] at hhead
    simp at hhead
    exact hc hhead
  rw [Literal.read?, if_neg (hne 'T' _ (by decide)), if_neg (hne 'F' _ (by decide)), if_pos hhead,
    hread]

/-- The text of an integer is read as its sign and its absolute value. -/
theorem read?_intChars (n : ℤ) :
    Literal.read? (String.ofList (Json.intChars n)) =
      some (.integer (decide (n < 0)) n.natAbs) := by
  refine read?_of_number? ?_
  have hdigits := @unsigned?_integer (decide (n < 0)) _
    (fun c hc => Nat.isDigit_of_mem_toDigits (by decide) (by decide) hc)
    (Nat.toDigits_ne_nil (n := n.natAbs) (b := 10))
  rw [Json.natOfDigits_toDigits] at hdigits
  rw [← hdigits, Json.intChars]
  split
  case isTrue hneg => simp [number?, hneg]
  case isFalse hneg =>
    obtain ⟨c, cs, hcs, hc⟩ := Json.exists_toDigits_eq_cons n.natAbs
    rw [hcs, number?_of_isDigit hc, decide_eq_false hneg]

/-- The sign in front of digits is read. -/
theorem number?_signText (x : Binary64) {cs : List Char} (hcs : ∀ c ∈ cs.head?, c.isDigit) :
    number? (x.signText ++ cs) = unsigned? x.negative cs := by
  rw [Binary64.signText]
  cases x.negative with
  | true => rfl
  | false =>
    cases cs with
    | nil => rfl
    | cons c cs => exact number?_of_isDigit (hcs c rfl) cs

/-- **The text of a finite number** is read as a decimal that is rounded to the number. -/
theorem read?_plainText {x : Binary64} (hfinite : x.isInfinite = false) :
    ∃ l, Literal.read? x.plainText = some l ∧ l.Denotes (.scalar .float) (.float x) := by
  obtain ⟨whole, fraction, hpositional⟩ :
      ∃ whole fraction, (x.shortest .away).positional = (whole, fraction) := ⟨_, _, rfl⟩
  have hvalue := Binary64.ofDecimal_positional hfinite .away
  have hne := (x.shortest .away).positional_fst_ne_nil
  obtain ⟨hwhole, hfraction⟩ :=
    DecimalDigits.isDigit_positional (Binary64.isDigit_shortest (x := x) .away)
  simp only [hpositional] at hvalue hne hwhole hfraction
  have htext : x.plainText = String.ofList (x.signText ++
      if fraction = [] then whole else whole ++ '.' :: fraction) := by
    rw [Binary64.plainText, hfinite, hpositional]
    cases fraction <;> rfl
  by_cases hintegral : fraction = []
  · subst hintegral
    rw [htext, if_pos rfl]
    have hread := (number?_signText x fun c hc => hwhole c (List.mem_of_mem_head? hc)).trans
      (unsigned?_integer hwhole hne)
    refine ⟨_, read?_of_number? hread, ?_⟩
    rw [List.append_nil] at hvalue
    have hdenotes : Literal.Denotes (.scalar .float) (.integer x.negative (natOfDigits whole)) _ :=
      .floatOfInteger rfl
    rwa [show Binary64.ofDecimal x.negative (natOfDigits whole) 0 = x from hvalue] at hdenotes
  · rw [htext, if_neg hintegral]
    have hhead : ∀ c ∈ (whole ++ '.' :: fraction).head?, c.isDigit := fun c hc => by
      rw [List.head?_append_of_ne_nil _ hne] at hc
      exact hwhole c (List.mem_of_mem_head? hc)
    have hread := (number?_signText x hhead).trans (unsigned?_decimal hwhole hne hfraction)
    refine ⟨_, read?_of_number? hread, ?_⟩
    have hdenotes : Literal.Denotes (.scalar .float)
        (.decimal x.negative (natOfDigits (whole ++ fraction)) fraction.length) _ := .float rfl
    rwa [hvalue] at hdenotes

/-- The text of an infinity is no literal. -/
theorem read?_infinite (negative : Bool) :
    Literal.read? (Binary64.plainText (.infinite negative)) = none := by
  cases negative <;> decide

/-- The text of a default integer denotes it in the fields that take integers. -/
theorem renderDefault_int_denotes {kind : FieldKind}
    (hkind : kind = .scalar .int ∨ kind = .scalar .float) (n : Int64) :
    ∃ l, Literal.read? (renderDefault (.int n)) = some l ∧ l.Denotes kind (.int n) := by
  refine ⟨_, read?_intChars n.toInt, .int hkind ?_⟩
  simp only [decide_eq_true_eq]
  split <;> omega

/-- **A default that fits its field** is written as a literal that denotes it exactly when it is no
infinity. -/
theorem renderDefault_denotes_iff {d : Document} {f : Field} {v : DefaultValue}
    (hv : d.Admits f v) :
    (∃ l, Literal.read? (renderDefault v) = some l ∧ l.Denotes f.kind v) ↔
      ∀ negative, v ≠ .float (.infinite negative) := by
  constructor
  · rintro ⟨l, hread, -⟩ negative rfl
    rw [renderDefault, read?_infinite] at hread
    nomatch hread
  · intro hfinite
    cases hv with
    | @string s kind _ => exact ⟨_, read?_quoteLiteral s, .string (.inl kind)⟩
    | @int n kind => exact renderDefault_int_denotes (.inl kind) n
    | @floatOfInt n kind => exact renderDefault_int_denotes (.inr kind) n
    | @float x kind =>
      rw [kind]
      exact read?_plainText (Binary64.isInfinite_eq_false_iff.mpr fun negative heq =>
        hfinite negative (congrArg _ heq))
    | @boolean b kind => cases b <;> exact ⟨_, rfl, .boolean kind⟩
    | @dateTime s kind _ => exact ⟨_, read?_quoteLiteral s, .string (.inr kind)⟩
    | @enum e s v kind text _ _ _ =>
      have hrender : renderDefault v = quoteLiteral s := by
        cases v <;> cases text <;> rfl
      exact ⟨_, hrender ▸ read?_quoteLiteral s, .enum kind text⟩

/-! ### The columns of fields with defaults -/

variable {d : Document} {set : RelationSet} {t : ObjectType} {f : Field} {v : DefaultValue}

/-- A default is declared for a scalar or enum field that is no identifier. -/
theorem isValue_of_admits (hv : d.Admits f v) : f.isValue = true ∧ f.kind ≠ .scalar .id := by
  cases hv <;> simp_all [Field.isValue, Field.isScalar, Field.scalar?, Field.isEnum]

/-- The definition of a column of a value ends in its default. -/
theorem render_value (name : String) (type : ColumnType) (required : Bool) (v : DefaultValue) :
    Column.render ⟨name, .value type required (some v)⟩ =
      quoteIdentifier name ++ " " ++ type.render ++ (if required then " NOT NULL" else "") ++
        " DEFAULT " ++ renderDefault v := by
  simp [Column.render, ColumnRole.render, String.append_assoc]

/-- **The table of a type declares a column for every field with a default**, and the column carries
the default. -/
theorem exists_column_of_default (hd : d.Valid) (ht : t ∈ d.objectTypes) (hf : f ∈ t.fields)
    (hv : f.options.defaultValue = some v) (hadmits : d.Admits f v) {s : Statement}
    (hs : tableOf d set t = .ok s) :
    ∃ type, ⟨f.name, .value type f.required (some v)⟩ ∈ s.columns := by
  obtain ⟨scalars, enums, references, hscalars, henums, -, -, hcolumns⟩ := of_tableOf_eq_ok hs
  obtain ⟨hvalue, hid⟩ := isValue_of_admits hadmits
  have hkey : t.primaryKey? ≠ some f := fun hkey => hid (isId_of_primaryKey? hkey)
  rw [hcolumns]
  cases hkind : f.kind with
  | scalar scalar =>
    have hscalar : f.scalar? = some scalar := by simp [Field.scalar?, hkind]
    have hcolumn : scalarColumn t f =
        .ok ⟨f.name, .value (scalarType f scalar) f.required (some v)⟩ := by
      rw [scalarColumn, hscalar]
      simp only [primaryKey?_name_eq_iff hd ht hf, if_neg hkey, hv]
    have hmem := List.mem_of_mapM_eq_ok hscalars
      (List.mem_filter.mpr ⟨hf, by simp [Field.isScalar, hscalar]⟩) hcolumn
    exact ⟨scalarType f scalar, by simp [hmem]⟩
  | enum =>
    obtain ⟨e, he⟩ : ∃ e, d.enumType? f.typeName = some e := by
      have hknown := hd.kindIsKnown t ht f hf
      simpa only [Document.kindIsKnown, hkind, Option.isSome_iff_exists] using hknown
    have hcolumn : enumColumn d f =
        .ok ⟨f.name, .value (.enum e.values) f.required (some v)⟩ := by
      rw [enumColumn, he]
      simp only [hv]
    have hmem := List.mem_of_mapM_eq_ok henums
      (List.mem_filter.mpr ⟨hf, by simp [Field.isEnum, hkind]⟩) hcolumn
    exact ⟨.enum e.values, by simp [hmem]⟩
  | relation => simp [Field.isValue, Field.isScalar, Field.scalar?, Field.isEnum, hkind] at hvalue

/-- **The default of a field of an accepted document** is what the definition of its column ends in,
and it is a literal that denotes the default exactly when the default is no infinity. The table
exists whenever the relations of the document resolve. The condition is for defaults that are numbers:
NaN is no `Binary64`, and would be a second value without a literal. -/
theorem default_denoted_iff {objectTypes : List ObjectType} {enumTypes : List EnumType}
    (hd : Document.validated objectTypes enumTypes = .ok d) (ht : t ∈ d.objectTypes)
    (hf : f ∈ t.fields) (hv : f.options.defaultValue = some v) :
    (∀ set, RelationSet.resolve d = .ok set → ∃ s, tableOf d set t = .ok s) ∧
    (∀ set s, tableOf d set t = .ok s → ∃ c ∈ s.columns, c.name = f.name ∧ ∃ type : ColumnType,
      c.render = quoteIdentifier f.name ++ " " ++ type.render ++
        (if f.required then " NOT NULL" else "") ++ " DEFAULT " ++ renderDefault v) ∧
    ((∃ l, Literal.read? (renderDefault v) = some l ∧ l.Denotes f.kind v) ↔
      ∀ negative, v ≠ .float (.infinite negative)) := by
  have hformed := Document.check_eq_ok_iff_wellFormed.mp (Document.check_of_validated hd)
  have hadmits := hformed.defaults t ht f hf v hv
  refine ⟨fun set hset => exists_tableOf (RelationSet.resolves_of_resolve hd hset) ht, ?_,
    renderDefault_denotes_iff hadmits⟩
  intro set s hs
  obtain ⟨type, hcolumn⟩ :=
    exists_column_of_default (Document.valid_of_validated hd) ht hf hv hadmits hs
  exact ⟨_, hcolumn, rfl, type, render_value f.name type f.required v⟩

end Sql

/-- Readings of an instrument, with a default that a number beyond the range of the format is read
as. -/
def Document.readings : Document where
  objectTypes :=
    [ .of "Reading"
        [ { name := "id", typeName := "ID", kind := .scalar .id, required := true },
          { name := "level", typeName := "Float", kind := .scalar .float,
            options := { defaultValue := some (.float (.ofDecimal false 1 400)) } },
          { name := "scale", typeName := "Float", kind := .scalar .float,
            options := { defaultValue := some (.float (.ofDecimal true 1 (-1))) } } ] {} ]
  enumTypes := []

/-- The scale of a reading has a default that is denoted by its literal. -/
theorem Sql.readings_default_denoted :
    Document.validated Document.readings.objectTypes [] = .ok .readings ∧
      ∃ t ∈ Document.readings.objectTypes, ∃ f ∈ t.fields, f.name = "scale" ∧
        ∃ v, f.options.defaultValue = some v ∧
          ∃ l, Literal.read? (renderDefault v) = some l ∧ l.Denotes f.kind v := by
  have hd : Document.validated Document.readings.objectTypes [] = .ok .readings := by
    decide +kernel
  have hdenoted := default_denoted_iff hd (t := Document.readings.objectTypes[0]) (by decide)
    (f := Document.readings.objectTypes[0].fields[2]) (by decide +kernel) rfl
  exact ⟨hd, Document.readings.objectTypes[0], by decide,
    Document.readings.objectTypes[0].fields[2], by decide +kernel, rfl, _, rfl,
    hdenoted.2.2.mpr (by decide +kernel)⟩

/-- The default level of a reading is accepted and comes out as a text that is no literal. -/
theorem Sql.readings_default_unread :
    Document.validated Document.readings.objectTypes [] = .ok .readings ∧
      ∃ t ∈ Document.readings.objectTypes, ∃ f ∈ t.fields, ∃ v,
        f.options.defaultValue = some v ∧ Literal.read? (renderDefault v) = none ∧
          ∃ s, tableOf .readings ⟨[]⟩ t = .ok s ∧ ∃ c ∈ s.columns, c.name = f.name ∧
            c.render = "\x60level\x60 FLOAT DEFAULT inf" := by
  refine ⟨by decide +kernel, Document.readings.objectTypes[0], by decide,
    Document.readings.objectTypes[0].fields[1], by decide +kernel, _, rfl, by decide +kernel,
    _, rfl, ⟨"level", .value .float false (some (.float (.infinite false)))⟩, ?_⟩
  decide +kernel

end DataModel
