import DataModel.Yaml.Token

/-!
# YAML nodes

A document as a tree: scalars with their texts, sequences and mappings. The type of a scalar is left
to whoever reads it, and so is its tag; all that is kept beside the text is whether it was written
plainly, since an empty plain scalar stands for nothing at all.

A node may be named by an anchor and stand again wherever the name is used. Where it does, the tree
has an alias; `Document.resolve` leads from there to the node, which may lie around the alias.

`Document.parse` reads a text of one document.
-/

namespace DataModel.Yaml

/-- A node of a document. -/
inductive Node where
  | scalar (text : String) (plain : Bool)
  | sequence (items : List Node)
  | mapping (entries : List (Node × Node))
  /-- The node with a number among those that are named. -/
  | alias (target : Nat)

instance : Inhabited Node := ⟨.scalar "" true⟩

/-- What stands where nothing is written. -/
def Node.empty : Node := .scalar "" true

/-- The nodes that have been named so far. Names are numbered in the order in which they first occur,
and a name that occurs again gets the number that is due next, which it may have to share; a number
stands for the node that got it last. -/
structure Anchors where
  numbers : List (String × Nat) := []
  /-- Which node a number stands for, as the position among all that were named, latest first. -/
  positions : List (Nat × Nat) := []
  /-- The nodes at these positions. -/
  nodes : List (Nat × Node) := []

namespace Anchors

/-- Names the node that comes next. -/
def define (name : String) (a : Anchors) : Anchors :=
  { a with
    numbers := (name, a.numbers.length) :: a.numbers.filter (·.1 ≠ name)
    positions := (a.numbers.length, a.positions.length) :: a.positions }

/-- The node that a number stands for. -/
def node? (a : Anchors) (number : Nat) : Option Node :=
  (a.positions.lookup number).bind fun position => a.nodes.lookup position

end Anchors

/-- What is left of a text, the handles of tags that are declared and the nodes that are named. -/
structure ReaderState where
  left : List Token
  handles : List String
  anchors : Anchors := {}

/-- A reader of tokens. -/
abbrev Reader (α : Type) := StateT ReaderState Option α

namespace Reader

/-- The next token, if there is one. -/
def peek : Reader (Option Token) := return (← get).left.head?

/-- Whether the next token is one of these. -/
def nextIs (ts : List Token) : Reader Bool := return (← peek).any ts.contains

/-- Passes over the next token. -/
def skip : Reader Unit := modify fun s => { s with left := s.left.drop 1 }

/-- The next token, which has to be `t`. -/
def expect (t : Token) : Reader Unit := do
  if ← nextIs [t] then skip else failure

/-- What `p` reads, or nothing where one of these tokens follows. -/
def unlessNext (ts : List Token) (p : Reader Node) : Reader Node := do
  if ← nextIs ts then return .empty else p

/-- Items up to a token, each read by `p`. -/
def itemsUntil {α : Type} (stop : List Token) (p : Reader α) : Nat → Reader (List α)
  | 0 => failure
  | n + 1 => do
    if ← nextIs stop then return []
    let first ← p
    let others ← itemsUntil stop p n
    return first :: others

/-- Items between brackets, separated by commas; one may follow the last. -/
def separated {α : Type} (close : Token) (p : Reader α) : Nat → Reader (List α)
  | 0 => failure
  | n + 1 => do
    if ← nextIs [close] then return []
    let first ← p
    if ← nextIs [close] then return [first]
    expect .comma
    let others ← separated close p n
    return first :: others

/-- The value after a colon, if there is one. -/
def valueOr (stop : List Token) (p : Reader Node) : Reader Node := do
  if ← nextIs [.value] then
    skip
    unlessNext stop p
  else return .empty

/-- An entry of a block mapping. -/
def blockEntry (p : Reader Node) : Reader (Node × Node) := do
  expect .key
  let key ← unlessNext [.key, .value, .blockEnd] p
  let value ← valueOr [.key, .value, .blockEnd] p
  return (key, value)

/-- An item of a block sequence. -/
def blockItem (stop : List Token) (p : Reader Node) : Reader Node := do
  expect .item
  unlessNext (.item :: stop) p

/-- An entry between braces; a key without colon has no value. -/
def flowEntry (p : Reader Node) : Reader (Node × Node) := do
  if ← nextIs [.key] then
    skip
    let key ← unlessNext [.value, .comma, .closeMapping] p
    let value ← valueOr [.comma, .closeMapping] p
    return (key, value)
  else return (← p, .empty)

/-- An item between brackets; a key with its value is a mapping of one entry. Where the key is left
out, the token that follows is passed over. -/
def flowItem (p : Reader Node) : Reader Node := do
  if ← nextIs [.key] then
    skip
    let isEmpty ← nextIs [.value, .comma, .closeSequence]
    let key ← if isEmpty then (do skip; return .empty) else p
    let value ← valueOr [.comma, .closeSequence] p
    return .mapping [(key, value)]
  else p

/-- What may follow an item that is not indented further than the key of its sequence. -/
def afterUnindented : List Token := [.key, .value, .blockEnd]

/-- The rest of a sequence in brackets. -/
def flowSequence (p : Reader Node) (bound : Nat) : Reader Node := do
  let items ← separated .closeSequence (flowItem p) bound
  expect .closeSequence
  return .sequence items

/-- The rest of a mapping in braces. -/
def flowMapping (p : Reader Node) (bound : Nat) : Reader Node := do
  let entries ← separated .closeMapping (flowEntry p) bound
  expect .closeMapping
  return .mapping entries

/-- The rest of a block sequence. -/
def blockSequence (p : Reader Node) (bound : Nat) : Reader Node := do
  let items ← itemsUntil [.blockEnd] (blockItem [.blockEnd] p) bound
  expect .blockEnd
  return .sequence items

/-- The rest of a block mapping. -/
def blockMapping (p : Reader Node) (bound : Nat) : Reader Node := do
  let entries ← itemsUntil [.blockEnd] (blockEntry p) bound
  expect .blockEnd
  return .mapping entries

/-- A sequence whose items stand at the indentation of its key. -/
def unindentedSequence (p : Reader Node) (bound : Nat) : Reader Node := do
  let items ← itemsUntil afterUnindented (blockItem afterUnindented p) bound
  return .sequence items

/-- The name of a node, if it has one next. -/
def anchor : Reader (Option String) := do
  match ← peek with
  | some (.anchor name) => skip; return some name
  | _ => return none

/-- Whether the node has a tag next, whose handle has to be declared. -/
def tag : Reader Bool := do
  match ← peek with
  | some (.tag handle) =>
    skip
    if handle.isEmpty || (← get).handles.contains handle then return true else failure
  | _ => return false

/-- The properties of a node, in either order: its name and whether it has a tag. -/
def properties : Reader (Option String × Bool) := do
  match ← anchor with
  | some name => return (some name, ← tag)
  | none => if ← tag then return (← anchor, true) else return (none, false)

/-- What `p` reads, under a name. The name is known inside the node already. -/
def named (name : Option String) (p : Reader Node) : Reader Node := do
  match name with
  | none => p
  | some name =>
    let position := (← get).anchors.positions.length
    modify fun s => { s with anchors := s.anchors.define name }
    let node ← p
    modify fun s => { s with
      anchors := { s.anchors with nodes := (position, node) :: s.anchors.nodes } }
    return node

/-- A node whose nesting is bounded by `n`. As a key or value of a block mapping, a sequence need
not be indented; a node with properties may be left empty. -/
def nodeUpTo : Nat → (unindented : Bool) → Reader Node
  | 0, _ => failure
  | n + 1, unindented => do
    match ← peek with
    | some (.alias name) =>
      skip
      match (← get).anchors.numbers.lookup name with
      | some number => return .alias number
      | none => failure
    | _ =>
      let (name, isTagged) ← properties
      let bound := (← get).left.length
      let next ← peek
      named name <|
        match next with
        | some (.scalar text plain) => do skip; return .scalar text plain
        | some .openSequence => do skip; flowSequence (nodeUpTo n false) bound
        | some .openMapping => do skip; flowMapping (nodeUpTo n false) bound
        | some .blockSequence => do skip; blockSequence (nodeUpTo n false) bound
        | some .blockMapping => do skip; blockMapping (nodeUpTo n true) bound
        | next =>
          if next = some .item && unindented then unindentedSequence (nodeUpTo n false) bound
          else if name.isSome || isTagged then return .empty
          else failure

/-- Directives in front of a document, of which `hasVersion` tells whether its version has been
given, up to the mark of its start. Nothing may be declared twice. -/
def directives (hasVersion : Bool) : Nat → Reader Unit
  | 0 => failure
  | n + 1 => do
    match ← peek with
    | some (.version major minor) =>
      if hasVersion || major ≠ 1 || !(minor = 1 || minor = 2) then failure
      skip
      directives true n
    | some (.tagHandle handle) =>
      if (← get).handles.contains handle then failure
      skip
      modify fun s => { s with handles := handle :: s.handles }
      directives hasVersion n
    | _ => expect .documentStart

/-- Whether a token belongs in front of a document. -/
def isDirective : Token → Bool
  | .version .. => true
  | .tagHandle .. => true
  | _ => false

/-- Whether a token comes after a document, or starts the next. -/
def endsDocument (t : Token) : Bool := t = .documentStart || t = .documentEnd || isDirective t

/-- The handles that need not be declared. -/
def defaultHandles : List String := ["!", "!!"]

/-- The root of the first document. A document with a mark of its start may be left empty. -/
def root : Reader Node := do
  let bound := (← get).left.length
  if (← peek).any fun t => t = .documentStart || isDirective t then
    directives false (bound + 1)
    modify fun s => { s with handles := s.handles ++ defaultHandles }
    if (← peek).all endsDocument then return .empty else nodeUpTo bound false
  else
    modify fun s => { s with handles := defaultHandles }
    nodeUpTo bound false

end Reader

/-- A document: its root, and the nodes that are named. -/
structure Document where
  root : Node
  anchors : Anchors

namespace Document

/-- The node that a node stands for. -/
def resolve (d : Document) : Node → Node
  | .alias number => (d.anchors.node? number).getD .empty
  | node => node

/-- The document that a text holds: none for a text without tokens, and an error for a text with
more than one. -/
def parse (text : String) : Option (Option Document) := do
  let tokens ← Token.scan text
  if tokens.isEmpty then return none
  let (root, s) ← Reader.root.run { left := tokens, handles := [] }
  if s.left.all (· = .documentEnd) then return some ⟨root, s.anchors⟩ else none

end Document

end DataModel.Yaml
