import DataModel.Api.Schema
import DataModel.Document.DateTime
import DataModel.Query.Syntax

/-!
# Values as inputs

Which values an input type admits. A value that is no list stands for a list of one item, and a
value that is no object is admitted where an input object is expected: what reads the input refuses
it then.

A variable may stand where its own type is at least as strict as the type expected there
(`TypeExpr.admits`); a default value makes up for a type that allows null.
-/

namespace DataModel

namespace TypeExpr

/-- The type without the demand for a value. -/
def orNull : TypeExpr → TypeExpr
  | .nonNull inner => inner.orNull
  | t => t

/-- Whether every value of the second type is expected by the first. -/
def admits : TypeExpr → TypeExpr → Bool
  | .nonNull expected, .nonNull given => expected.admits given
  | .nonNull _, _ => false
  | expected, .nonNull given => expected.admits given
  | .named expected, .named given => expected == given
  | .list expected, .list given => expected.admits given
  | _, _ => false

end TypeExpr

namespace Api.Schema

open DataModel.Query

/-- Whether a built-in scalar admits a value that is not null. -/
def scalarAdmits (scalar : String) : Value → Bool
  | .int n => (scalar == "Int" || scalar == "ID") && fitsInt64 n || scalar == "Float"
  | .float _ => scalar == "Float"
  | .string _ => scalar == "String" || scalar == "ID"
  | .boolean _ => scalar == "Boolean"
  | _ => false

/-- Whether a type without members, given by its name, admits a value that is not null. -/
def leafAdmits (s : Schema) (name : String) (v : Value) : Bool :=
  if builtInScalars.contains name then scalarAdmits name v
  else
    match s.type? name, v with
    | some (.enum _ items), .enum item => items.contains item
    | some (.enum _ items), .string item => items.contains item
    | some (.dateTime ..), .string text => DateTime.isLiteral text
    | some (.enum ..), _ => false
    | some (.dateTime ..), _ => false
    | _, _ => true

/-- The fields of the input type with this name. -/
def inputFields? (s : Schema) (name : String) : Option (List InputField) :=
  match s.type? name with
  | some (.input _ fields) => some fields
  | _ => none

mutual

/-- Whether a value may be given where the type is expected. -/
def admits (s : Schema) : Value → TypeExpr → Bool
  | .null, t => !t.isNonNull
  | .list items, t =>
    match t.orNull with
    | .list inner => s.admitsItems items inner
    | inner => s.leafAdmits inner.coreName (.list items)
  | .object entries, t =>
    match s.inputFields? t.coreName with
    | some fields =>
      s.admitsEntries entries fields &&
        fields.all fun f => !f.type.isNonNull || entries.any (·.1 == f.name)
    | none => s.leafAdmits t.coreName (.object entries)
  | v, t => s.leafAdmits t.coreName v
termination_by structural v => v

/-- Whether every item may be given where the type is expected. -/
def admitsItems (s : Schema) : List Value → TypeExpr → Bool
  | [], _ => true
  | v :: rest, t => s.admits v t && s.admitsItems rest t
termination_by structural items => items

/-- Whether every entry is a field with a value that it admits. -/
def admitsEntries (s : Schema) : List (String × Value) → List InputField → Bool
  | [], _ => true
  | (key, v) :: rest, fields =>
    (match fields.find? (·.name == key) with
      | some f => s.admits v f.type
      | none => false) && s.admitsEntries rest fields
termination_by structural entries => entries

end

mutual

/-- Whether each variable of a literal may stand where it does. Inside a literal whose form does not
follow the expected type, the place of a variable has no type, and nothing is asked of it. -/
def placesAdmit (s : Schema) (typeOf : String → Option TypeExpr) : Literal → TypeExpr → Bool
  | .variable name, t =>
    match typeOf name with
    | some given => t.admits given
    | none => true
  | .list items, t =>
    match t.orNull with
    | .list inner => s.itemPlacesAdmit typeOf items inner
    | _ => true
  | .object entries, t =>
    match t.orNull with
    | .named name =>
      match s.inputFields? name with
      | some fields => s.entryPlacesAdmit typeOf entries fields
      | none => true
    | _ => true
  | _, _ => true
termination_by structural v => v

/-- Whether each variable of the items may stand where it does. -/
def itemPlacesAdmit (s : Schema) (typeOf : String → Option TypeExpr) :
    List Literal → TypeExpr → Bool
  | [], _ => true
  | v :: rest, t => s.placesAdmit typeOf v t && s.itemPlacesAdmit typeOf rest t
termination_by structural items => items

/-- Whether each variable of the entries may stand where it does. -/
def entryPlacesAdmit (s : Schema) (typeOf : String → Option TypeExpr) :
    List (String × Literal) → List InputField → Bool
  | [], _ => true
  | (key, v) :: rest, fields =>
    (match fields.find? (·.name == key) with
      | some f => s.placesAdmit typeOf v f.type
      | none => true) && s.entryPlacesAdmit typeOf rest fields
termination_by structural entries => entries

end

end Api.Schema

end DataModel
