import DataModel.Document.Basic
import DataModel.Json.Basic
import DataModel.Number.Decimal
import DataModel.Text.Quoted

/-!
# What can be wrong with a data model

The causes for which a document is refused, from the lowering of its declarations to the resolution
of its relations. Every cause names the declarations involved, and `ModelError.message` is its
wording.
-/

namespace DataModel

/-- A default as messages show it. -/
def DefaultValue.display : DefaultValue → String
  | .string s => Text.quoted s
  | .int n => String.ofList (Json.intChars n.toInt)
  | .float x => x.plainText
  | .boolean true => "true"
  | .boolean false => "false"
  | .enum s => s

/-- Why a default does not fit its field. -/
inductive DefaultFault where
  /-- A literal of this kind is never a default. -/
  | literalKind (kindName : String)
  | relationField
  | idField
  | tooLong (maxLength : UInt32)
  | notDateTime (text : String)
  | notMember (value typeName : String)
  | mismatch (value : DefaultValue) (typeName : String)
  deriving DecidableEq

/-- The wording of a fault. -/
def DefaultFault.message : DefaultFault → String
  | .literalKind kindName => kindName ++ " literals cannot be defaults"
  | .relationField => "relation fields cannot have defaults"
  | .idField => "ID fields are generated and cannot have defaults"
  | .tooLong n => "default is longer than the maximum length " ++ toString n.toNat
  | .notDateTime s => Text.quoted s ++ " is not an ISO-8601 date or datetime"
  | .notMember v t => v ++ " is not a value of " ++ t
  | .mismatch v t => v.display ++ " does not match type " ++ t

/-- Why a directive is not understood. -/
inductive DirectiveFault where
  | missingValue
  | notPositive
  /-- The argument or entry under this key has to be a string. -/
  | notString (key kindName : String)
  /-- The argument or entry at this place has to be a list. -/
  | notList (place : String)
  | notFieldNames
  | notFieldName (kindName : String)
  deriving Repr, DecidableEq

/-- The wording of a fault. -/
def DirectiveFault.message : DirectiveFault → String
  | .missingValue => "missing argument value"
  | .notPositive => "value must be a positive integer"
  | .notString key kindName => key ++ " must be a string, got " ++ kindName
  | .notList place => place ++ " must be a list"
  | .notFieldNames => "fields must be a list of field names"
  | .notFieldName kindName => "field names must be strings, got " ++ kindName

/-- What already takes a column. -/
inductive ColumnHolder where
  /-- The scalar or enum field of that name. -/
  | field (name : String)
  /-- The reference column of a relation field. -/
  | reference (name : String)
  deriving Repr, DecidableEq

/-- The wording of a column holder. -/
def ColumnHolder.display : ColumnHolder → String
  | .field name => "field " ++ name
  | .reference name => "the reference column of " ++ name

/-- Why a data model is refused. -/
inductive ModelError where
  | unknownType (objectType field typeName : String)
  | duplicateType (name : String)
  | duplicateField (objectType field : String)
  | duplicateEnumValue (enumType value : String)
  | missingRelationField (sourceType targetType field : String)
  | ambiguousRelation (sourceType targetType field : String) (candidates : List String)
  | relationNameUses (name : String) (uses : Nat)
  | relationNameCollision (name first second : String)
  | fieldAlreadyPaired (objectType field first second : String)
  | referenceColumnCollision (objectType field column : String) (existing : ColumnHolder)
  | missingPrimaryKey (objectType : String)
  | unknownConstraintField (objectType constraint field : String)
  | invalidDirective (location directive : String) (fault : DirectiveFault)
  | invalidDefault (objectType field : String) (fault : DefaultFault)
  deriving DecidableEq

/-- The wording of an error. -/
def ModelError.message : ModelError → String
  | .unknownType t f n => "Unknown type " ++ n ++ " for field " ++ t ++ "." ++ f
  | .duplicateType n => "Type " ++ n ++ " is declared more than once"
  | .duplicateField t f => "Field " ++ f ++ " is declared more than once on " ++ t
  | .duplicateEnumValue e v => "Value " ++ v ++ " is declared more than once in enum " ++ e
  | .missingRelationField s t f =>
    "Missing relation field on " ++ t ++ " for " ++ s ++ "." ++ f
  | .ambiguousRelation s t f cs =>
    "Ambiguous relation for " ++ s ++ "." ++ f ++ ": " ++ t ++ " has fields " ++
      ", ".intercalate cs ++ " targeting " ++ s
  | .relationNameUses n k =>
    "Relation name " ++ n ++ " is used by " ++ toString k ++ " field(s), expected exactly 2"
  | .relationNameCollision n a b =>
    "Relation name " ++ n ++ " is computed for both " ++ a ++ " and " ++ b
  | .fieldAlreadyPaired t f a b =>
    "Field " ++ t ++ "." ++ f ++ " pairs with both " ++ a ++ " and " ++ b
  | .referenceColumnCollision t f c e =>
    "Reference column " ++ c ++ " for " ++ t ++ "." ++ f ++ " clashes with " ++ e.display
  | .missingPrimaryKey t =>
    "Object type " ++ t ++ " has no ID field but is part of a relation"
  | .unknownConstraintField t c f =>
    "Constraint " ++ c ++ " on " ++ t ++ " references unknown column " ++ f
  | .invalidDirective l d fault => "Invalid @" ++ d ++ " on " ++ l ++ ": " ++ fault.message
  | .invalidDefault t f fault =>
    "Invalid default value for " ++ t ++ "." ++ f ++ ": " ++ fault.message

end DataModel
