import DataModel.Query.Syntax
import DataModel.TokenParser

/-!
# Reading requests

`Query.parse` accepts the executable part of the query language: operations and fragments. Nesting
of values and selection sets is bounded by the number of tokens.

An integer literal that no 64 bits hold is read as a binary64 number, and so is a negative zero.
-/

namespace DataModel.Query

open DataModel.Api
open DataModel.Parser

/-- The lexical rules of the query language. -/
def lexicon : Lexicon where
  backspace := Char.ofNat 8
  startsExponent c := c = '+' || c = '-' || c.isDigit
  isIndent c := c = ' ' || c = '\t'
  breaksAtReturn := true
  maxOpen := 0x100000000

namespace Grammar

/-- The literal that a name stands for. -/
def namedLiteral (s : String) : Literal :=
  if s = "true" then .boolean true
  else if s = "false" then .boolean false
  else if s = "null" then .null
  else .enum s

/-- The literal that a finite number denotes. -/
def floatLiteral (x : Binary64) : Option Literal :=
  if x.isInfinite then none else some (.float x)

/-- The literal that a number denotes. -/
def numericLiteral (n : NumberText) : Option Literal :=
  if n.isInteger && (fitsInt64 n.toInt || fitsUInt64 n.toInt) && !(n.negative && n.toInt = 0) then
    some (.int n.toInt)
  else floatLiteral n.toBinary64

/-- A literal without nesting. -/
def leaf : Parser Literal := do
  match ← next with
  | .name s => return namedLiteral s
  | .string s => return .string s
  | .number n =>
    match numericLiteral n with
    | some v => return v
    | none => failure
  | .punctuator '$' => return .variable (← name)
  | _ => failure

/-- A literal whose nesting is bounded by `n`. A repeated key of an object keeps its first place and
its last value. -/
def literalUpTo : Nat → Parser Literal
  | 0 => failure
  | n + 1 =>
    leaf <|>
    (do
      punctuator '['
      let items ← many (literalUpTo n)
      punctuator ']'
      return .list items) <|>
    (do
      punctuator '\x7b'
      let entries ← many (do
        let key ← name
        punctuator ':'
        let value ← literalUpTo n
        return (key, value))
      punctuator '\x7d'
      return .object (Json.distinctEntries entries))

/-- A literal. -/
def literal : Parser Literal := fun ts => literalUpTo ts.length ts

/-- Arguments in parentheses, at least one. -/
def arguments : Parser (List Argument) := do
  punctuator '('
  let found ← many1 (do
    let key ← name
    punctuator ':'
    let value ← literal
    return (key, value))
  punctuator ')'
  return found

/-- Arguments in parentheses, or none at all. -/
def optionalArguments : Parser (List Argument) := do
  return (← maybe arguments).getD []

/-- Any number of directives. -/
def directives : Parser (List Directive) :=
  many (do
    punctuator '@'
    let directiveName ← name
    let found ← optionalArguments
    return ⟨directiveName, found⟩)

/-- Three dots. -/
def spread : Parser Unit := do
  match ← next with
  | .spread => return ()
  | _ => failure

/-- The type after the word `on`. -/
def condition : Parser String := nameAfter "on"

/-- A field name with the alias before it, if there is one. -/
def aliasedName : Parser (Option String × String) := do
  let first ← name
  match ← maybe (do punctuator ':'; name) with
  | some second => return (some first, second)
  | none => return (none, first)

/-- A selection set whose nesting is bounded by `n`. -/
def selectionsUpTo : Nat → Parser (List Selection)
  | 0 => failure
  | n + 1 => do
    punctuator '\x7b'
    let found ← many1 (
      (do
        let (responseKey, fieldName) ← aliasedName
        let found ← optionalArguments
        let ds ← directives
        let children ← maybe (selectionsUpTo n)
        return Selection.field responseKey fieldName found ds (children.getD [])) <|>
      (do
        spread
        let type ← maybe condition
        let ds ← directives
        let children ← selectionsUpTo n
        return Selection.inline type ds children) <|>
      (do
        spread
        unlessApplies condition
        let fragment ← name
        let ds ← directives
        return Selection.spread fragment ds))
    punctuator '\x7d'
    return found

/-- A selection set. -/
def selections : Parser (List Selection) := fun ts => selectionsUpTo ts.length ts

/-- A variable of an operation. Its directives have no meaning. -/
def variableDefinition : Parser VariableDefinition := do
  punctuator '$'
  let variableName ← name
  punctuator ':'
  let variableType ← type
  let _ ← directives
  match ← maybe (punctuator '=') with
  | none => return ⟨variableName, variableType, none⟩
  | some _ =>
    match (← literal).value? fun _ => none with
    | some v => return ⟨variableName, variableType, some v⟩
    | none => failure

/-- The variables of an operation in parentheses. -/
def variableDefinitions : Parser (List VariableDefinition) := do
  punctuator '('
  let found ← many variableDefinition
  punctuator ')'
  return found

/-- The words that start an operation. -/
def operationWords : List (String × OperationKind) :=
  [("query", .query), ("mutation", .mutation), ("subscription", .subscription)]

/-- The word that starts an operation, and the name of the operation if it has one. -/
def operationHead : Parser OperationKind := fun ts =>
  operationWords.findSome? fun (word, kind) =>
    ((do let _ ← nameAfter word; return kind) <|> (do keyword word; return kind) :
      Parser OperationKind) ts

/-- An operation; a bare selection set is a query. -/
def operation : Parser Operation :=
  (do return ⟨.query, [], [], ← selections⟩) <|>
  (do
    let kind ← operationHead
    let declared ← maybe variableDefinitions
    let ds ← directives
    let found ← selections
    return ⟨kind, declared.getD [], ds, found⟩)

/-- A named fragment. -/
def fragment : Parser Fragment := do
  let fragmentName ← nameAfter "fragment"
  let type ← condition
  let ds ← directives
  let found ← selections
  return ⟨fragmentName, type, ds, found⟩

/-- Operations and fragments in any order. -/
def request : Parser Request := do
  let found ← many1 (Sum.inl <$> operation <|> Sum.inr <$> fragment)
  return ⟨found.filterMap Sum.getLeft?, found.filterMap Sum.getRight?⟩

end Grammar

/-- The request that a text denotes, if it is one. -/
def parse (text : String) : Option Request := do
  let tokens ← Token.scan lexicon text
  match ← Grammar.request tokens with
  | (r, []) => some r
  | _ => none

end DataModel.Query
