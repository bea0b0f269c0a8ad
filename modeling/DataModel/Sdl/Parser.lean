import DataModel.Sdl.Syntax
import DataModel.TokenParser

/-!
# Reading schema documents

`Sdl.parse` accepts the type system language: object, enum, interface, union, scalar, input and
directive definitions, their extensions and the schema definition. Only object and enum types
contribute to the tree; everything else is checked for its form and passed over.

A directive on an object type or on one of its fields is kept, and its arguments must be literals:
a variable there is refused with its own error, while one in a part that is passed over does no
harm.
-/

namespace DataModel.Sdl

open DataModel.Parser

/-- Why a text is not a schema document. -/
inductive SyntaxError where
  /-- The text does not follow the grammar. -/
  | malformed
  /-- A variable stands in a directive of the data model. -/
  | variableInDirective (directive variableName : String)
  deriving Repr, DecidableEq

/-- The wording of a text's failure to follow the grammar. -/
def malformedText : String := "schema parse error"

/-- The wording of an error. -/
def SyntaxError.message : SyntaxError → String
  | .malformed => "Syntax error: " ++ malformedText
  | .variableInDirective directive variableName =>
    "Unsupported value in directive @" ++ directive ++ ": variable $" ++ variableName ++
      " in a schema document"

/-- The wording of the error below, where there is one. -/
def SyntaxError.cause? : SyntaxError → Option String
  | .malformed => some malformedText
  | .variableInDirective .. => none

/-- The lexical rules of the schema language. The escape for a backspace denotes U+0010, and an
exponent starts with a sign or a digit from 1 to 8. -/
def lexicon : Lexicon where
  backspace := Char.ofNat 0x10
  startsExponent c := c = '+' || c = '-' || ('1' ≤ c && c ≤ '8')
  isIndent := Text.isBlank
  breaksAtReturn := false
  maxOpen := 50

/-- A value as written, where a variable may still stand. -/
inductive RawValue where
  | variable (name : String)
  | null
  | boolean (value : Bool)
  | int (value : Int64)
  | float (value : Binary64)
  | string (value : String)
  | enum (value : String)
  | list (items : List RawValue)
  | object (entries : List (String × RawValue))

/-- A directive whose arguments may still hold variables. -/
structure RawDirective where
  name : String
  arguments : List (String × RawValue)

/-- A field whose directives may still hold variables. -/
structure RawField where
  name : String
  type : TypeExpr
  directives : List RawDirective

/-- A definition as written. -/
inductive RawDefinition where
  | object (name : String) (fields : List RawField) (directives : List RawDirective)
  | enum (name : String) (values : List String)
  | other

namespace Grammar

/-- The value that a name stands for. -/
def namedValue (s : String) : RawValue :=
  if s = "true" then .boolean true
  else if s = "false" then .boolean false
  else if s = "null" then .null
  else .enum s

/-- The value that a number denotes. An integer has to fit 64 bits. -/
def numericValue (n : NumberText) : Option RawValue :=
  if n.isInteger then
    if fitsInt64 n.toInt then some (.int (Int64.ofInt n.toInt)) else none
  else some (.float n.toBinary64)

/-- A value without nesting. -/
def leaf : Parser RawValue := do
  match ← next with
  | .name s => return namedValue s
  | .string s => return .string s
  | .number n =>
    match numericValue n with
    | some v => return v
    | none => failure
  | .punctuator '$' => return .variable (← name)
  | _ => failure

/-- A value whose nesting is bounded by `n`. -/
def valueUpTo : Nat → Parser RawValue
  | 0 => failure
  | n + 1 =>
    leaf <|>
    (do
      punctuator '['
      let items ← many (valueUpTo n)
      punctuator ']'
      return .list items) <|>
    (do
      punctuator '\x7b'
      let entries ← many (do
        let key ← name
        punctuator ':'
        let value ← valueUpTo n
        return (key, value))
      punctuator '\x7d'
      return .object (Json.sortEntries entries))

/-- A value. -/
def value : Parser RawValue := fun ts => valueUpTo ts.length ts

mutual

/-- Whether a value holds no variable. -/
def isConstant : RawValue → Bool
  | .variable _ => false
  | .list items => areConstant items
  | .object entries => entriesAreConstant entries
  | _ => true
termination_by structural v => v

/-- Whether no item holds a variable. -/
def areConstant : List RawValue → Bool
  | [] => true
  | v :: rest => isConstant v && areConstant rest
termination_by structural items => items

/-- Whether no entry holds a variable. -/
def entriesAreConstant : List (String × RawValue) → Bool
  | [] => true
  | (_, v) :: rest => isConstant v && entriesAreConstant rest
termination_by structural entries => entries

end

/-- A value without variables. -/
def constant : Parser RawValue := do
  let v ← value
  if isConstant v then return v else failure

/-- An argument of a directive. -/
def argument : Parser (String × RawValue) := do
  let key ← name
  punctuator ':'
  let v ← value
  return (key, v)

/-- A directive; parentheses hold at least one argument. -/
def directive : Parser RawDirective := do
  punctuator '@'
  let name ← name
  let arguments ← maybe (do
    punctuator '('
    let arguments ← many1 argument
    punctuator ')'
    return arguments)
  return ⟨name, arguments.getD []⟩

/-- Any number of directives. -/
def directives : Parser (List RawDirective) := many directive

/-- One or more items between braces. -/
def braces {α : Type} (p : Parser α) : Parser (List α) := do
  punctuator '\x7b'
  let items ← many1 p
  punctuator '\x7d'
  return items

/-- A description or none. -/
def description : Parser Unit := do
  let _ ← maybe string

/-- An argument of a field or directive, or a field of an input type. -/
def inputValue : Parser Unit := do
  description
  let _ ← name
  punctuator ':'
  let _ ← type
  let _ ← maybe (do punctuator '='; constant)
  let _ ← directives

/-- Argument definitions in parentheses, or none. -/
def argumentDefinitions : Parser Unit := do
  let _ ← maybe (do
    punctuator '('
    let _ ← many1 inputValue
    punctuator ')')

/-- A field of an object type or interface. -/
def field : Parser RawField := do
  description
  let name ← name
  argumentDefinitions
  punctuator ':'
  let type ← type
  let directives ← directives
  return ⟨name, type, directives⟩

/-- A value of an enum type. -/
def enumValue : Parser String := do
  description
  let name ← name
  let _ ← directives
  return name

/-- The implemented interfaces, or none. -/
def implementedInterfaces : Parser (Option (List String)) :=
  maybe (do keyword "implements"; separatedNames '&')

/-- What follows `type` or `interface`. -/
def objectBody : Parser RawDefinition := do
  let name ← name
  let _ ← implementedInterfaces
  let directives ← directives
  let fields ← maybe (braces field)
  return .object name (fields.getD []) directives

/-- What follows `union`. -/
def unionBody : Parser Unit := do
  let _ ← name
  let _ ← directives
  let _ ← maybe (do punctuator '='; separatedNames '|')

/-- What follows `enum`. -/
def enumBody : Parser RawDefinition := do
  let name ← name
  let _ ← directives
  let values ← maybe (braces enumValue)
  return .enum name (values.getD [])

/-- What follows `input`. -/
def inputBody : Parser Unit := do
  let _ ← name
  let _ ← directives
  let _ ← maybe (braces inputValue)

/-- The places where a directive may stand. -/
def directiveLocations : List String := [
  "QUERY", "MUTATION", "SUBSCRIPTION", "FIELD", "FRAGMENT_DEFINITION", "FRAGMENT_SPREAD",
  "INLINE_FRAGMENT", "VARIABLE_DEFINITION", "SCHEMA", "SCALAR", "OBJECT", "FIELD_DEFINITION",
  "ARGUMENT_DEFINITION", "INTERFACE", "UNION", "ENUM", "ENUM_VALUE", "INPUT_OBJECT",
  "INPUT_FIELD_DEFINITION"]

/-- The name of a place where a directive may stand. -/
def directiveLocation : Parser Unit := do
  let name ← name
  if directiveLocations.contains name then return () else failure

/-- The places after `on`. There may be none, but a name there has to be a place. -/
def directiveLocationList : Parser Unit := fun
  | [] => some ((), [])
  | .name s :: ts => rest (.name s :: ts)
  | .punctuator '|' :: ts => rest ts
  | ts => some ((), ts)
where
  /-- One or more places. -/
  rest : Parser Unit := do
    directiveLocation
    let _ ← many (do punctuator '|'; directiveLocation)

/-- What follows `directive`. -/
def directiveBody : Parser Unit := do
  punctuator '@'
  let _ ← name
  argumentDefinitions
  let _ ← maybe (keyword "repeatable")
  keyword "on"
  directiveLocationList

/-- What follows `schema`: the root operations, each at most once. -/
def schemaBody : Parser Unit := do
  let _ ← directives
  punctuator '\x7b'
  let roots ← many (do
    let operation ← name
    punctuator ':'
    let _ ← name
    return operation)
  punctuator '\x7d'
  if roots.all ["query", "mutation", "subscription"].contains && roots.Nodup then return ()
  else failure

/-- The part of an extension after its directives: whether it adds anything. -/
def extensionAdds (kind : String) : Parser Bool :=
  if kind = "type" || kind = "interface" then do return (← maybe (braces field)).isSome
  else if kind = "union" then do
    return (← maybe (do punctuator '='; separatedNames '|')).isSome
  else if kind = "enum" then do return (← maybe (braces enumValue)).isSome
  else if kind = "input" then do return (← maybe (braces inputValue)).isSome
  else if kind = "scalar" then pure false
  else failure

/-- What follows `extend`: an extension has to add something. -/
def extensionBody : Parser Unit := do
  let kind ← name
  let _ ← name
  let interfaces ← if kind = "type" then implementedInterfaces else pure none
  let directives ← directives
  let adds ← extensionAdds kind
  if adds || interfaces.isSome || !directives.isEmpty then return () else failure

/-- A definition that may have a description, after its keyword. -/
def describedBody (keyword : String) : Parser RawDefinition :=
  if keyword = "type" then objectBody
  else if keyword = "enum" then enumBody
  else if keyword = "interface" then do let _ ← objectBody; return .other
  else if keyword = "scalar" then do let _ ← name; let _ ← directives; return .other
  else if keyword = "union" then do unionBody; return .other
  else if keyword = "input" then do inputBody; return .other
  else if keyword = "directive" then do directiveBody; return .other
  else failure

/-- A definition. -/
def definition : Parser RawDefinition := do
  let described ← maybe string
  let keyword ← name
  if described.isNone && keyword = "schema" then do schemaBody; return .other
  else if described.isNone && keyword = "extend" then do extensionBody; return .other
  else describedBody keyword

/-- One or more definitions and nothing after them. -/
def document (ts : List Token) : Option (List RawDefinition) :=
  match many1 definition ts with
  | some (definitions, []) => some definitions
  | _ => none

end Grammar

mutual

/-- The literal that a value stands for, or the first variable in it. -/
def RawValue.literal : RawValue → Except String Value
  | .variable name => .error name
  | .null => .ok .null
  | .boolean b => .ok (.boolean b)
  | .int n => .ok (.int n)
  | .float x => .ok (.float x)
  | .string s => .ok (.string s)
  | .enum s => .ok (.enum s)
  | .list items => (literals items).map .list
  | .object entries => (entryLiterals entries).map .object
termination_by structural v => v

/-- The literals that the items stand for. -/
def literals : List RawValue → Except String (List Value)
  | [] => .ok []
  | v :: rest => do
    let first ← v.literal
    let others ← literals rest
    return first :: others
termination_by structural items => items

/-- The literals that the entries stand for. -/
def entryLiterals : List (String × RawValue) → Except String (List (String × Value))
  | [] => .ok []
  | (key, v) :: rest => do
    let first ← v.literal
    let others ← entryLiterals rest
    return (key, first) :: others
termination_by structural entries => entries

end

/-- The directive with literal arguments. -/
def RawDirective.toDirective (d : RawDirective) : Except SyntaxError Directive := do
  let arguments ← d.arguments.mapM fun (name, value) =>
    match value.literal with
    | .ok value => .ok ⟨name, value⟩
    | .error variableName => .error (.variableInDirective d.name variableName)
  return ⟨d.name, arguments⟩

/-- The field with literal directive arguments. -/
def RawField.toField (f : RawField) : Except SyntaxError FieldDefinition := do
  return ⟨f.name, f.type, ← f.directives.mapM RawDirective.toDirective⟩

/-- The definition, if it contributes to the data model. Fields are read before the directives of
their type. -/
def RawDefinition.toDefinition? : RawDefinition → Except SyntaxError (Option Definition)
  | .object name fields directives => do
    let fields ← fields.mapM RawField.toField
    let directives ← directives.mapM RawDirective.toDirective
    return some (.object ⟨name, fields, directives⟩)
  | .enum name values => .ok (some (.enum ⟨name, values⟩))
  | .other => .ok none

/-- The schema document that a text denotes. -/
def parse (text : String) : Except SyntaxError Schema :=
  match (Token.scan lexicon text).bind Grammar.document with
  | none => .error .malformed
  | some definitions => do
    let kept ← definitions.mapM RawDefinition.toDefinition?
    return ⟨kept.filterMap id⟩

end DataModel.Sdl
