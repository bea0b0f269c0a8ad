/-!
# Type expressions

The types of fields and arguments as both languages write them: a name inside list and non-null
wrappers. `TypeExpr.shape` is what a data model reads off one: the core name, whether the outermost
wrapper demands a value, and whether a list occurs at any depth.
-/

namespace DataModel

/-- A type with its list and non-null wrappers. -/
inductive TypeExpr where
  | named (name : String)
  | list (inner : TypeExpr)
  | nonNull (inner : TypeExpr)
  deriving Repr, DecidableEq

/-- What a field type says about the field. -/
structure TypeShape where
  name : String
  required : Bool
  list : Bool
  deriving Repr, DecidableEq

namespace TypeExpr

/-- The name inside all wrappers. -/
def coreName : TypeExpr → String
  | .named name => name
  | .list inner => inner.coreName
  | .nonNull inner => inner.coreName

/-- Whether a list wrapper occurs at any depth. -/
def hasList : TypeExpr → Bool
  | .named _ => false
  | .list _ => true
  | .nonNull inner => inner.hasList

/-- Whether the outermost wrapper is non-null. -/
def isNonNull : TypeExpr → Bool
  | .nonNull _ => true
  | _ => false

/-- Core name, requiredness and listness of a type. -/
def shape (t : TypeExpr) : TypeShape where
  name := t.coreName
  required := t.isNonNull
  list := t.hasList

/-- The type as the schema language writes it. -/
def render : TypeExpr → String
  | .named name => name
  | .list inner => "[" ++ inner.render ++ "]"
  | .nonNull inner => inner.render ++ "!"

end TypeExpr

end DataModel
