import DataModel.Api.Error
import DataModel.Document.Basic
import DataModel.Text.Affix

/-!
# Filters and orders

A filter is a condition on the rows of a table: comparisons of single columns under conjunction,
disjunction and negated conjunction. `whereFilter` reads one off the input for lists,
`uniqueFilter` off the input for single rows and `orderBy` reads the order of a list.

The two filter inputs have one form: an object is the conjunction of its entries that are not null,
a few keys combine nested objects and every other key stands for a condition. `InputForm` names what
the two decide differently.
-/

namespace DataModel.Api

/-- A comparison of a column with a value. -/
inductive Operator where
  | eq
  | lt
  | lte
  | gt
  | gte
  | isIn
  | startsWith
  | endsWith
  | contains
  deriving Repr, DecidableEq

namespace Operator

/-- The suffix that marks the operator in the key of an input; equality has none. -/
def suffix : Operator → String
  | .eq => ""
  | .lt => "_lt"
  | .lte => "_lte"
  | .gt => "_gt"
  | .gte => "_gte"
  | .isIn => "_in"
  | .startsWith => "_starts_with"
  | .endsWith => "_ends_with"
  | .contains => "_contains"

/-- The name of the operator in a written filter. -/
def name : Operator → String
  | .eq => "Eq"
  | .lt => "Lt"
  | .lte => "Lte"
  | .gt => "Gt"
  | .gte => "Gte"
  | .isIn => "In"
  | .startsWith => "StartsWith"
  | .endsWith => "EndsWith"
  | .contains => "Contains"

/-- Whether the operand is a list of values. -/
def takesList (o : Operator) : Bool := o = .isIn

/-- The operators of a scalar type: order for ordered types, parts of text for strings. -/
def ofScalar (s : ScalarType) : List Operator :=
  .eq :: (if s.isOrdered then [.lt, .lte, .gt, .gte] else []) ++
    .isIn :: (if s = .string then [.startsWith, .endsWith, .contains] else [])

/-- The operators that a field supports, in the order of the input fields. -/
def ofField (f : Field) : List Operator :=
  match f.kind with
  | .scalar s => ofScalar s
  | .enum => [.eq, .isIn]
  | .relation => []

/-- The operators with a suffix, longest suffix first. A key is tried against them in this order, so
that no operator is mistaken for one whose suffix ends the same way. -/
def suffixed : List Operator :=
  [.startsWith, .endsWith, .contains, .lte, .gte, .lt, .gt, .isIn]

end Operator

/-- A condition on rows. -/
inductive Filter where
  | condition (column : String) (operator : Operator) (value : Json)
  | and (clauses : List Filter)
  | or (clauses : List Filter)
  /-- Not all of the clauses. -/
  | not (clauses : List Filter)

namespace Filter

/-- The column equals the value. -/
def eq (column : String) (value : Json) : Filter := .condition column .eq value

/-- The column equals one of the values. -/
def isIn (column : String) (values : List Json) : Filter :=
  .condition column .isIn (.array values)

/-- All of the clauses; a single clause stands for itself. -/
def all : List Filter → Filter
  | [clause] => clause
  | clauses => .and clauses

end Filter

/-- What a filter input decides: which keys combine nested objects, what every other key means, and
whether an object may have no entries. -/
structure InputForm where
  combinator? : String → Option (List Filter → Filter)
  leaf : String → Value → Except InputError Filter
  whenEmpty : Option InputError

/-- The filter of an object whose entries have these clauses. -/
def InputForm.close (form : InputForm) (clauses : List Filter) : Except InputError Filter :=
  match clauses, form.whenEmpty with
  | [], some error => .error error
  | clauses, _ => .ok (Filter.all clauses)

mutual

/-- The clauses of the entries that are not null. -/
def InputForm.clauses (form : InputForm) : List (String × Value) → Except InputError (List Filter)
  | [] => .ok []
  | (_, .null) :: rest => form.clauses rest
  | (key, v) :: rest =>
    match form.combinator? key with
    | some combine => do
      let nested ← form.nested v
      let others ← form.clauses rest
      return combine nested :: others
    | none => do
      let first ← form.leaf key v
      let others ← form.clauses rest
      return first :: others
termination_by structural entries => entries

/-- The filters of nested objects, a single object counting as a list of one. -/
def InputForm.nested (form : InputForm) : Value → Except InputError (List Filter)
  | .list items => form.items items
  | .object entries => do
    let clauses ← form.clauses entries
    return [← form.close clauses]
  | v => .error (.notObjects v.display)
termination_by structural v => v

/-- The filter of one nested object. -/
def InputForm.item (form : InputForm) : Value → Except InputError Filter
  | .object entries => do
    let clauses ← form.clauses entries
    form.close clauses
  | _ => .error .notAnObject
termination_by structural v => v

/-- The filters of the nested objects of a list. -/
def InputForm.items (form : InputForm) : List Value → Except InputError (List Filter)
  | [] => .ok []
  | v :: rest => do
    let first ← form.item v
    let others ← form.items rest
    return first :: others
termination_by structural items => items

end

/-- The field and operator that a key of the filter input stands for. An exact field name wins;
otherwise the longest suffix is tried first. -/
def filterKey? (t : ObjectType) (key : String) : Option (Field × Operator) :=
  match t.valueField? key with
  | some f => some (f, .eq)
  | none => Operator.suffixed.findSome? fun o =>
    match (Text.withoutSuffix? o.suffix key).bind t.valueField? with
    | some f => if (Operator.ofField f).contains o then some (f, o) else none
    | none => none

/-- The input for lists: a key is a field with an operator. -/
def whereForm (t : ObjectType) : InputForm where
  combinator? key :=
    if key = "_and" then some .and
    else if key = "_or" then some .or
    else if key = "_not" then some .not
    else none
  leaf key v :=
    match filterKey? t key with
    | some (f, o) => .ok (.condition f.name o v.toJson)
    | none => .error (.unknownFilterField key)
  whenEmpty := none

/-- The filter that the input for lists describes. -/
def whereFilter (t : ObjectType) (v : Value) : Except InputError Filter :=
  (whereForm t).item v

/-- The constraint over several fields with this label. -/
def compoundConstraint? (t : ObjectType) (label : String) : Option UniqueConstraint :=
  t.options.uniqueConstraints.find? fun c => c.fields.length > 1 && c.label == label

/-- The conditions of a constraint, one for each of its fields. -/
def compoundConditions (label : String) (parts : List (String × Value)) (fields : List String) :
    Except InputError (List Filter) :=
  fields.mapM fun name =>
    match parts.lookup name with
    | some v => .ok (.eq name v.toJson)
    | none => .error (.missingPart label name)

/-- The input for single rows: a key is a field or the label of a constraint over several fields. -/
def uniqueForm (t : ObjectType) : InputForm where
  combinator? key := if key = "_or" then some .or else none
  leaf key v :=
    if (t.field? key).isSome then .ok (.eq key v.toJson)
    else
      match compoundConstraint? t key with
      | none => .error (.unknownUniqueField key)
      | some c =>
        match v.entries? with
        | none => .error (.keyNotObject key)
        | some parts => (compoundConditions key parts c.fields).map .and
  whenEmpty := some (.emptyLookup t.name)

/-- The filter that the input for single rows describes. -/
def uniqueFilter (t : ObjectType) (v : Value) : Except InputError Filter :=
  (uniqueForm t).item v

/-- The direction of an order. -/
inductive Direction where
  | asc
  | desc
  deriving Repr, DecidableEq

/-- A column to order by. -/
structure OrderBy where
  column : String
  direction : Direction
  deriving Repr, DecidableEq

/-- The suffix that marks the direction in an order value. -/
def Direction.suffix : Direction → String
  | .asc => "_ASC"
  | .desc => "_DESC"

/-- The order that a name stands for. -/
def orderOfName (name : String) : Except InputError OrderBy :=
  match Text.withoutSuffix? Direction.asc.suffix name with
  | some column => .ok ⟨column, .asc⟩
  | none =>
    match Text.withoutSuffix? Direction.desc.suffix name with
    | some column => .ok ⟨column, .desc⟩
    | none => .error (.invalidOrder name)

/-- The order that a single order value stands for. -/
def orderItem : Value → Except InputError OrderBy
  | .enum name => orderOfName name
  | .string name => orderOfName name
  | v => .error (.invalidOrder v.display)

/-- The order that an input describes, a single value counting as a list of one. -/
def orderBy : Value → Except InputError (List OrderBy)
  | .null => .ok []
  | .list items => items.mapM orderItem
  | v => do return [← orderItem v]

end DataModel.Api
