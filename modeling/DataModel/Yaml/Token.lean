import DataModel.Yaml.Scalar

/-!
# YAML tokens

`Token.scan` turns a text into tokens in which the structure that indentation expresses is explicit:
a block collection is announced where its first line starts and ended where a line is indented less.

Whether a scalar is the key of a mapping shows only at the colon after it. Every scalar or bracket
that could be a key is therefore remembered as a `Candidate`, and the tokens that announce a mapping
and its key are put in front of it when the colon comes. A candidate has to end on the line it
started on.
-/

namespace DataModel.Yaml

/-- A lexical unit. -/
inductive Token where
  | documentStart
  | documentEnd
  /-- Directives before a document: its version, and a handle for tags. -/
  | version (major minor : Nat)
  | tagHandle (handle : String)
  /-- A block sequence or mapping starts. -/
  | blockSequence
  | blockMapping
  | blockEnd
  /-- Brackets and commas. -/
  | openSequence
  | closeSequence
  | openMapping
  | closeMapping
  | comma
  /-- The dash before an item, the start of a key and the colon before a value. -/
  | item
  | key
  | value
  /-- Properties of a node: its name, and the handle of its tag, which may be empty. -/
  | anchor (name : String)
  | tag (handle : String)
  /-- A node that has been named before. -/
  | alias (name : String)
  | scalar (text : String) (plain : Bool)
  deriving Repr, DecidableEq

/-- A token that may turn out to be a key: how many tokens come before it and where it stands. One
that stands at the indentation of its block has to be a key. -/
structure Candidate where
  position : Nat
  place : Place
  required : Bool

/-- The state of a scan. -/
structure Scan where
  rest : List Char
  place : Place
  tokens : List Token
  /-- How many brackets are open. -/
  depth : Nat
  /-- The indentation of the block, none at all being `-1`, and of those around it. -/
  indent : Int
  indents : List Int
  /-- Whether a key may start here. -/
  keyAllowed : Bool
  /-- The candidate of each bracket level, innermost first. -/
  candidates : List (Option Candidate)

namespace Scan

/-- The state before a text. -/
def start (cs : List Char) : Scan where
  rest := cs
  place := ⟨0, 0, 0⟩
  tokens := []
  depth := 0
  indent := -1
  indents := []
  keyAllowed := true
  candidates := [none]

/-- Adds a token. -/
def push (t : Token) (s : Scan) : Scan := { s with tokens := s.tokens ++ [t] }

/-- Puts a token in front of the one at a position. -/
def insert (position : Nat) (t : Token) (s : Scan) : Scan :=
  { s with tokens := s.tokens.take position ++ t :: s.tokens.drop position }

/-- Goes on by `n` characters of one line. -/
def skip (n : Nat) (s : Scan) : Scan :=
  { s with rest := s.rest.drop n, place := s.place.along n }

/-- Whether no bracket is open. -/
def inBlock (s : Scan) : Bool := s.depth = 0

/-- The mark of the byte order. -/
def byteOrderMark : Char := Char.ofNat 0xFEFF

/-- Blanks, comments and line breaks before the next token: whether a key may start after them, what
follows and where. A tab may stand only where no key can start; a mark of the byte order may start a
line and counts as a column. -/
def gapFrom (inBlock allowed comment : Bool) (place : Place) :
    List Char → Bool × List Char × Place
  | [] => (allowed, [], place)
  | '\r' :: '\n' :: rest => gapFrom inBlock (allowed || inBlock) false (place.nextLine 2) rest
  | c :: rest =>
    if isBreak c then gapFrom inBlock (allowed || inBlock) false (place.nextLine 1) rest
    else if comment || c = ' ' || c = '\t' && !(inBlock && allowed) ||
        c = byteOrderMark && place.column = 0 then
      gapFrom inBlock allowed comment (place.along 1) rest
    else if c = '#' then gapFrom inBlock allowed true (place.along 1) rest
    else (allowed, c :: rest, place)

/-- Goes on to the next token. -/
def skipGap (s : Scan) : Scan :=
  let (keyAllowed, rest, place) := gapFrom s.inBlock s.keyAllowed false s.place s.rest
  { s with keyAllowed, rest, place }

/-- Drops a candidate that is no longer on its line or lies too far back. One that had to be a key
is an error. -/
def checkCandidate (place : Place) : Option Candidate → Option (Option Candidate)
  | none => some none
  | some c =>
    if c.place.line = place.line && place.offset ≤ c.place.offset + 1024 then some (some c)
    else if c.required then none
    else some none

/-- Drops the candidates that can no longer be keys. -/
def dropStale (s : Scan) : Option Scan := do
  return { s with candidates := ← s.candidates.mapM (checkCandidate s.place) }

/-- Gives up the candidate of the present level. -/
def dropCandidate (s : Scan) : Option Scan :=
  match s.candidates with
  | [] => some s
  | none :: _ => some s
  | some c :: others => if c.required then none else some { s with candidates := none :: others }

/-- Makes the next token the candidate of the present level. -/
def saveCandidate (s : Scan) : Option Scan :=
  if !s.keyAllowed then some s
  else do
    let s ← s.dropCandidate
    let required := s.inBlock && s.indent = s.place.column
    return { s with
      candidates := some ⟨s.tokens.length, s.place, required⟩ :: s.candidates.drop 1 }

/-- Starts a block collection at a column that is further in than the block around it. -/
def enterBlock (column : Nat) (position : Nat) (t : Token) (s : Scan) : Scan :=
  if s.inBlock && s.indent < column then
    { s.insert position t with indent := column, indents := s.indent :: s.indents }
  else s

/-- Ends the block collections that are further in than a column. -/
def leaveBlocks (column : Int) : List Int → Scan → Scan
  | [], s => s
  | outer :: others, s =>
    if s.indent ≤ column then s
    else leaveBlocks column others { s.push .blockEnd with indent := outer, indents := others }

/-- Ends the block collections that are further in than a column, outside brackets. -/
def unindent (column : Int) (s : Scan) : Scan :=
  if s.inBlock then leaveBlocks column s.indents s else s

/-- The mark of a document's start or end. -/
def documentMark (t : Token) (s : Scan) : Option Scan := do
  let s ← (s.unindent (-1)).dropCandidate
  return { (s.push t).skip 3 with keyAllowed := false }

/-- An opening bracket. -/
def openBracket (t : Token) (s : Scan) : Option Scan := do
  let s ← s.saveCandidate
  return { (s.push t).skip 1 with
    depth := s.depth + 1, candidates := none :: s.candidates, keyAllowed := true }

/-- A closing bracket. -/
def closeBracket (t : Token) (s : Scan) : Option Scan := do
  let s ← s.dropCandidate
  let candidates := if s.depth = 0 then s.candidates else s.candidates.drop 1
  return { (s.push t).skip 1 with depth := s.depth - 1, candidates, keyAllowed := false }

/-- A comma between brackets. -/
def comma (s : Scan) : Option Scan := do
  let s ← s.dropCandidate
  return { (s.push .comma).skip 1 with keyAllowed := true }

/-- The dash before an item. -/
def dash (s : Scan) : Option Scan := do
  if s.inBlock && !s.keyAllowed then none
  let s := s.enterBlock s.place.column s.tokens.length .blockSequence
  let s ← s.dropCandidate
  return { (s.push .item).skip 1 with keyAllowed := true }

/-- The question mark before a key. -/
def questionMark (s : Scan) : Option Scan := do
  if s.inBlock && !s.keyAllowed then none
  let s := s.enterBlock s.place.column s.tokens.length .blockMapping
  let s ← s.dropCandidate
  return { (s.push .key).skip 1 with keyAllowed := s.inBlock }

/-- The colon before a value. -/
def colon (s : Scan) : Option Scan :=
  match s.candidates with
  | some c :: others =>
    let s := (s.insert c.position .key).enterBlock c.place.column c.position .blockMapping
    some { (s.push .value).skip 1 with candidates := none :: others, keyAllowed := false }
  | _ =>
    if s.inBlock && !s.keyAllowed then none
    else
      let s := s.enterBlock s.place.column s.tokens.length .blockMapping
      some { (s.push .value).skip 1 with keyAllowed := s.inBlock }

/-- A scalar that has been read. -/
def scalar (plain : Bool) (r : Reading) (s : Scan) : Scan :=
  { s.push (.scalar (String.ofList r.text) plain) with
    rest := r.rest, place := r.place, keyAllowed := r.brokeLine }

/-- A scalar in quotes. -/
def quoted (reader : List Char → Gap → Place → List Char → Option Reading) (s : Scan) :
    Option Scan := do
  let s ← s.saveCandidate
  let r ← reader [] .none (s.place.along 1) (s.rest.drop 1)
  return s.scalar false r

/-- A block scalar. -/
def block (folded : Bool) (s : Scan) : Option Scan := do
  let s ← s.dropCandidate
  let r ← blockScalar folded s.indent (s.place.along 1) (s.rest.drop 1)
  return s.scalar false r

/-- A plain scalar. -/
def plain (s : Scan) : Option Scan := do
  let s ← s.saveCandidate
  let r ← plainFrom (!s.inBlock) (s.indent + 1) [] .none s.place s.rest
  return s.scalar true r

/-! ### Properties and directives -/

/-- Characters of names and of the handles of tags. -/
def isNameChar (c : Char) : Bool := c.isAlphanum || c = '_' || c = '-'

/-- Goes on to what is left of a line after some of it has been read. -/
def skipTo (rest : List Char) (s : Scan) : Scan := s.skip (s.rest.length - rest.length)

/-- The name of an anchor or an alias, whose indicator comes first. -/
def named (t : String → Token) (s : Scan) : Option Scan := do
  let s ← s.saveCandidate
  let name := (s.rest.drop 1).takeWhile isNameChar
  let rest := s.rest.drop (1 + name.length)
  let ends := atGap rest || rest.head?.any ['?', ':', ',', ']', '\x7d', '%', '@', '\x60'].contains
  if name.isEmpty || !ends then none
  return { (s.push (t (String.ofList name))).skipTo rest with keyAllowed := false }

/-- Characters of a tag besides those of names, and those that only stand between angle brackets or
in a directive. -/
def isTagChar (inBrackets : Bool) (c : Char) : Bool :=
  isNameChar c ||
    [';', '/', '?', ':', '@', '&', '=', '+', '$', '.', '!', '~', '*', singleQuote, '(', ')'].contains
      c ||
    inBrackets && [',', '[', ']'].contains c

/-- How many bytes follow a byte with which an encoded character starts. -/
def bytesAfter? (byte : Nat) : Option Nat :=
  if byte < 0x80 then some 0
  else if 0xC0 ≤ byte ∧ byte < 0xE0 then some 1
  else if 0xE0 ≤ byte ∧ byte < 0xF0 then some 2
  else if 0xF0 ≤ byte ∧ byte < 0xF8 then some 3
  else none

/-- What follows the characters of a tag, and whether there are any. A byte may be escaped by a
percent sign and two digits; `pending` bytes of an escaped character are still to come. -/
def afterTag? (inBrackets : Bool) (pending : Nat) (found : Bool) :
    List Char → Option (Bool × List Char)
  | '%' :: a :: b :: rest => do
    let byte := 16 * (← Json.hexValue a) + (← Json.hexValue b)
    match pending with
    | 0 => afterTag? inBrackets (← bytesAfter? byte) true rest
    | pending + 1 =>
      if 0x80 ≤ byte ∧ byte < 0xC0 then afterTag? inBrackets pending true rest else none
  | c :: rest =>
    if pending ≠ 0 || c = '%' then none
    else if isTagChar inBrackets c then afterTag? inBrackets 0 true rest
    else some (found, c :: rest)
  | [] => if pending ≠ 0 then none else some (found, [])

/-- The characters of a tag, of which there has to be one. -/
def tagChars? (inBrackets : Bool) (cs : List Char) : Option (List Char) :=
  match afterTag? inBrackets 0 false cs with
  | some (true, rest) => some rest
  | _ => none

/-- The handle of a tag and what follows the tag, whose exclamation mark has been read. A tag between
angle brackets has no handle, and one that does not go on to a second mark has the primary one. -/
def tagHandle? (cs : List Char) : Option (String × List Char) := do
  match cs with
  | '<' :: rest =>
    match ← tagChars? true rest with
    | '>' :: rest => return ("", rest)
    | _ => none
  | cs =>
    let name := cs.takeWhile isNameChar
    match cs.drop name.length with
    | '!' :: rest => return ("!" ++ String.ofList name ++ "!", ← tagChars? false rest)
    | rest =>
      let (_, rest) ← afterTag? false 0 true rest
      return ("!", rest)

/-- The tag of a node. -/
def tag (s : Scan) : Option Scan := do
  let s ← s.saveCandidate
  let (handle, rest) ← tagHandle? (s.rest.drop 1)
  if !(atGap rest || !s.inBlock && rest.head? = some ',') then none
  return { (s.push (.tag handle)).skipTo rest with keyAllowed := false }

/-- A number of a version, which has nine digits at most, and what follows it. -/
def versionNumber? (cs : List Char) : Option (Nat × List Char) :=
  let digits := cs.takeWhile (·.isDigit)
  if digits.isEmpty || 9 < digits.length then none
  else some (digits.foldl (fun n d => 10 * n + (d.toNat - 0x30)) 0, cs.drop digits.length)

/-- The directive that follows a percent sign, and what follows it on its line. -/
def directive? (cs : List Char) : Option (Token × List Char) := do
  let name := cs.takeWhile isNameChar
  let rest := cs.drop name.length
  if !atGap rest then none
  let rest := rest.dropWhile isBlank
  if String.ofList name = "YAML" then
    let (major, rest) ← versionNumber? rest
    match rest with
    | '.' :: rest =>
      let (minor, rest) ← versionNumber? rest
      return (.version major minor, rest)
    | _ => none
  else if String.ofList name = "TAG" then
    match rest with
    | '!' :: rest =>
      let word := rest.takeWhile isNameChar
      let (handle, rest) ←
        match rest.drop word.length with
        | '!' :: rest => some ("!" ++ String.ofList word ++ "!", rest)
        | rest => if word.isEmpty then some ("!", rest) else none
      if !rest.head?.any isBlank then none
      let rest ← tagChars? true (rest.dropWhile isBlank)
      if atGap rest then return (.tagHandle handle, rest) else none
    | _ => none
  else none

/-- A directive with the rest of its line. -/
def directive (s : Scan) : Option Scan := do
  let s ← (s.unindent (-1)).dropCandidate
  let (t, rest) ← directive? (s.rest.drop 1)
  let s := s.skipTo rest
  let (rest, place) ← skipComment? s.place s.rest
  let (rest, place) := skipBreak place rest
  return { s.push t with rest, place, keyAllowed := false }

/-! ### Rounds -/

/-- Characters with which no plain scalar starts, unless a word follows the first three. -/
def indicators : List Char :=
  ['-', '?', ':', ',', '[', ']', '\x7b', '\x7d', '#', '&', '*', '!', '|', '>', singleQuote, '"',
    '%', '@', '\x60']

/-- Whether a plain scalar starts with `c` before `rest`. -/
def startsPlain (s : Scan) (c : Char) (rest : List Char) : Bool :=
  !indicators.contains c && !isBlank c ||
    c = '-' && !rest.head?.any isBlank && !rest.isEmpty ||
    s.inBlock && (c = '?' || c = ':') && !atGap rest

/-- Takes up the token that starts with `c` before `rest`. -/
def take (c : Char) (rest : List Char) (s : Scan) : Option Scan :=
  if s.place.column = 0 && c = '%' then s.directive
  else if s.place.column = 0 && atDocumentMark (c :: rest) then
    s.documentMark (if c = '-' then .documentStart else .documentEnd)
  else if c = '[' then s.openBracket .openSequence
  else if c = '\x7b' then s.openBracket .openMapping
  else if c = ']' then s.closeBracket .closeSequence
  else if c = '\x7d' then s.closeBracket .closeMapping
  else if c = ',' then s.comma
  else if c = '-' && atGap rest then s.dash
  else if c = '?' && (!s.inBlock || atGap rest) then s.questionMark
  else if c = ':' && (!s.inBlock || atGap rest) then s.colon
  else if c = '*' then s.named .alias
  else if c = '&' then s.named .anchor
  else if c = '!' then s.tag
  else if (c = '|' || c = '>') && s.inBlock then s.block (c = '>')
  else if c = singleQuote then s.quoted singleFrom
  else if c = '"' then s.quoted doubleFrom
  else if s.startsPlain c rest then s.plain
  else none

/-- Goes on to the end of the text. Every round but the last takes up a token of at least one
character, so `fuel` need not exceed the length of the text by more than one. -/
def run : Nat → Scan → Option (List Token)
  | 0, _ => none
  | fuel + 1, s => do
    let s ← s.skipGap.dropStale
    let s := s.unindent s.place.column
    match s.rest with
    | [] => do
      let s ← (s.unindent (-1)).dropCandidate
      return s.tokens
    | c :: rest => run fuel (← s.take c rest)

end Scan

/-- Characters that may stand in a text: no control characters but tabs and line breaks. -/
def isAllowed (c : Char) : Bool :=
  c = '\t' || c = '\n' || c = '\r' || 0x20 ≤ c.toNat && c.toNat ≤ 0x7E || c.toNat = 0x85 ||
    0xA0 ≤ c.toNat && c.toNat ≤ 0xFFFD || 0x10000 ≤ c.toNat

/-- The tokens of a text, unless it breaks a rule of the language. -/
def Token.scan (text : String) : Option (List Token) :=
  let cs := text.toList
  if cs.all isAllowed then (Scan.start cs).run (cs.length + 1) else none

end DataModel.Yaml
