import DataModel.Query.Input

/-!
# Plans

A plan is what a request asks for once everything in it has been looked up: for each selected field
its definition in the schema, the values of its arguments and the plan for its result. Aliases have
become keys, fragments have been replaced by their selections and skipped parts are gone.

`Plan.of?` yields a plan exactly for the requests that the schema admits. Whatever is wrong with a
request, even in a part that would be skipped, the request as a whole is refused.
-/

namespace DataModel.Query

open DataModel.Api

/-- One entry of an object in the answer. -/
inductive Step where
  /-- The name of the object's type. -/
  | typename (key type : String)
  /-- The result of a field. -/
  | field (key : String) (definition : OutputField) (arguments : List (String × Value))
      (children : List Step)

/-- The entries of the root object. -/
abbrev Plan := List Step

/-- The field that every object has: the name of its type. -/
def typenameField : String := "__typename"

/-- How deep selection sets may be nested in each other, fragments included. -/
def maxDepth : Nat := 32

/-- What a request is checked against. -/
structure Context where
  schema : Schema
  request : Request
  declared : List VariableDefinition
  supplied : List (String × Value)

/-- Whether no two of the names are equal. -/
def distinct (names : List String) : Bool :=
  names.eraseDups.length == names.length

namespace Request

/-- The selections that a selection set reaches, at any depth and through fragments. Below the name
of a type nothing is reached. -/
def reached (r : Request) : Nat → List Selection → List Selection
  | 0, _ => []
  | depth + 1, selections => selections.flatMap fun selection =>
    selection :: match selection with
      | .field _ name _ _ children => if name = typenameField then [] else r.reached depth children
      | .spread fragment _ =>
        match r.fragment? fragment with
        | some f => r.reached depth f.selections
        | none => []
      | .inline _ _ children => r.reached depth children

end Request

/-- The variables that a selection mentions itself. -/
def Selection.variableNames (selection : Selection) : List String :=
  let inDirectives := selection.directives.flatMap fun d => d.arguments.flatMap (·.2.variableNames)
  match selection with
  | .field _ name found _ _ =>
    if name = typenameField then [] else found.flatMap (·.2.variableNames) ++ inDirectives
  | _ => inDirectives

/-- A field as a selection set shows it: the type condition it stands under and its key, and what is
selected there. -/
structure Shown where
  condition : Option String
  key : String
  name : String
  arguments : List Argument

namespace Shown

/-- Whether two fields stand at one place of the answer. -/
def samePlace (x y : Shown) : Bool :=
  x.condition == y.condition && x.key == y.key

/-- Whether two fields ask for the same. -/
def agrees (x y : Shown) : Bool :=
  x.name == y.name && x.arguments.length == y.arguments.length &&
    x.arguments.all fun (name, v) =>
      match y.arguments.lookup name with
      | some w => v.same w
      | none => false

/-- Whether each field agrees with the first one at its place. -/
def compatible (fields : List Shown) : Bool :=
  fields.all fun x =>
    match fields.find? (·.samePlace x) with
    | some first => first.agrees x
    | none => true

end Shown

/-- The fields that a selection set shows, those of its fragments included. -/
def Request.shown (r : Request) : Nat → Option String → List Selection → List Shown
  | 0, _, _ => []
  | depth + 1, condition, selections => selections.flatMap fun
    | .field responseKey name found _ _ => [⟨condition, responseKey.getD name, name, found⟩]
    | .spread fragment _ =>
      match r.fragment? fragment with
      | some f => r.shown depth (some f.condition) f.selections
      | none => []
    | .inline condition _ children => r.shown depth condition children

namespace Context

/-- The declared type of a variable. A default value makes up for a type that allows null. -/
def placeType? (c : Context) (name : String) : Option TypeExpr :=
  (c.declared.find? (·.name == name)).map fun v =>
    if v.default.isSome && !v.type.isNonNull then .nonNull v.type else v.type

/-- The value supplied for a variable. -/
def supplied? (c : Context) (name : String) : Option Value :=
  c.supplied.lookup name

/-- The value of a variable: the one supplied, its default, or null where its type allows it. -/
def value? (c : Context) (name : String) : Option Value := do
  let v ← c.declared.find? (·.name == name)
  match c.supplied? name, v.default with
  | some supplied, _ => some supplied
  | none, some default => some default
  | none, none => if v.type.isNonNull then none else some .null

/-- Whether a literal may be given where the type is expected. Its value is looked at only if every
variable in it is supplied. -/
def literalFits (c : Context) (t : TypeExpr) (l : Literal) : Bool :=
  (l.variableNames.all fun name => c.declared.any (·.name == name)) &&
    c.schema.placesAdmit c.placeType? l t &&
    match l.value? c.supplied? with
    | some v => c.schema.admits v t
    | none => true

/-- Whether arguments are given as declared. -/
def argumentsFit (c : Context) (declared : List InputField) (given : List Argument) : Bool :=
  distinct (given.map (·.1)) &&
    (given.all fun (name, l) =>
      match declared.find? (·.name == name) with
      | some f => c.literalFits f.type l
      | none => false) &&
    declared.all fun f => !f.type.isNonNull || given.any (·.1 == f.name)

/-- The argument of the two directives of the query language. -/
def directiveArgument : InputField := ⟨"if", .nonNull (.named "Boolean")⟩

/-- Whether the directives of a selection are known, given as declared and not repeated. -/
def directivesFit (c : Context) (ds : List Directive) : Bool :=
  distinct (ds.map (·.name)) &&
    ds.all fun d =>
      (d.name == "skip" || d.name == "include") && c.argumentsFit [directiveArgument] d.arguments

/-- Whether a condition holds. A variable that is not supplied does not hold. -/
def holds (c : Context) (l : Literal) : Bool :=
  match l.value? c.supplied? with
  | some (.boolean b) => b
  | _ => false

/-- Whether the directives of a selection leave it out. -/
def isSkipped (c : Context) (ds : List Directive) : Bool :=
  ds.any fun d =>
    match d.arguments.lookup directiveArgument.name with
    | some l => d.name == "skip" && c.holds l || d.name == "include" && !c.holds l
    | none => false

/-- The fields of the object type with this name. -/
def objectFields? (c : Context) (name : String) : Option (List OutputField) :=
  match c.schema.type? name with
  | some (.object _ fields) => some fields
  | _ => none

/-- The values of the arguments of a field. -/
def argumentValues? (c : Context) (given : List Argument) : Option (List (String × Value)) :=
  given.mapM fun (name, l) => (l.value? c.value?).map (name, ·)

/-- The selections of a fragment or on the spot, provided that their type condition is met. -/
def underCondition {α : Type} (parent condition : String) (selections : Option α) : Option α :=
  if condition = parent then selections else none

/-- The step for a field whose definition and children have been found. A skipped field has been
checked like any other. -/
def fieldStep? (c : Context) (key : String) (definition : OutputField) (given : List Argument)
    (skipped : Bool) (children : List Step) : Option (List Step) :=
  if skipped then some []
  else do
    let values ← c.argumentValues? given
    return [.field key definition values children]

/-- The plan for a selection set on the object type `parent`, at most `depth` levels deep. -/
def steps? (c : Context) : Nat → String → List Selection → Option (List Step)
  | 0, _, _ => none
  | depth + 1, parent, selections => do
    let fields ← c.objectFields? parent
    guard (Shown.compatible (c.request.shown (depth + 1) none selections))
    let parts ← selections.mapM fun selection => do
      let skipped := c.isSkipped selection.directives
      match selection with
      | .field responseKey name given ds children =>
        if name = typenameField then
          return if skipped then [] else [.typename (responseKey.getD name) parent]
        else
          let definition ← fields.find? (·.name == name)
          let result := definition.type.coreName
          guard (c.argumentsFit definition.arguments given && c.directivesFit ds)
          guard ((c.objectFields? result).isSome == !children.isEmpty)
          let below ← if children.isEmpty then some [] else c.steps? depth result children
          c.fieldStep? (responseKey.getD name) definition given skipped below
      | .spread name ds =>
        let fragment ← c.request.fragment? name
        guard (c.directivesFit ds)
        let below ← underCondition parent fragment.condition
          (c.steps? depth parent fragment.selections)
        return if skipped then [] else below
      | .inline condition ds children =>
        guard (c.directivesFit ds)
        let below ← underCondition parent (condition.getD parent) (c.steps? depth parent children)
        return if skipped then [] else below
    return parts.flatten

/-- Whether the variables of the operation are declared once, of input types, with fitting defaults,
and each of them is used. -/
def variablesFit (c : Context) (used : List String) : Bool :=
  distinct (c.declared.map (·.name)) &&
    c.declared.all fun v =>
      used.contains v.name &&
        c.schema.hasType v.type.coreName && c.schema.isInput v.type.coreName &&
        match v.default with
        | some d => !v.type.isNonNull && c.schema.admits d v.type
        | none => true

/-- Whether every fragment has a name of its own, a known object type and no directives, and is
used. -/
def fragmentsFit (c : Context) (reached : List Selection) : Bool :=
  distinct (c.request.fragments.map (·.name)) &&
    c.request.fragments.all fun f =>
      (c.objectFields? f.condition).isSome && f.directives.isEmpty &&
        reached.any fun
          | .spread name _ => name == f.name
          | _ => false

end Context

/-- The plan of a request, if the schema admits the request. -/
def Plan.of? (schema : Schema) (request : Request) (supplied : List (String × Value)) :
    Option Plan :=
  match request.operations with
  | [operation] => do
    let c : Context := ⟨schema, request, operation.declared, supplied⟩
    let reached := request.reached (maxDepth + 1) operation.selections
    guard (operation.kind = .query && operation.directives.isEmpty)
    guard (c.fragmentsFit reached)
    guard (c.variablesFit (reached.flatMap (·.variableNames)))
    c.steps? (maxDepth + 1) queryRoot operation.selections
  | _ => none

end DataModel.Query
