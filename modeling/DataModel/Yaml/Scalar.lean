import DataModel.Json.Reader

/-!
# YAML scalars

The texts of plain, quoted and block scalars. A scalar may run over several lines; what stands
between two of its words is a `Gap`: spaces on one line, or line breaks, of which a single one is
folded into a space. The line and paragraph separators of Unicode break lines as well, but are kept
as they are.

A `Place` is the line and column that has been reached; the text that follows it is handed around
separately.
-/

namespace DataModel.Yaml

/-- A place in a text. -/
structure Place where
  line : Nat
  column : Nat
  offset : Nat
  deriving Repr, DecidableEq

namespace Place

/-- The place `n` characters further on the same line. -/
def along (n : Nat) (p : Place) : Place := ⟨p.line, p.column + n, p.offset + n⟩

/-- The start of the next line, `n` characters further. -/
def nextLine (n : Nat) (p : Place) : Place := ⟨p.line + 1, 0, p.offset + n⟩

end Place

/-- Spaces and tabs. -/
def isBlank (c : Char) : Bool := c = ' ' || c = '\t'

/-- The line and the paragraph separator. -/
def isSeparator (c : Char) : Bool := c = Char.ofNat 0x2028 || c = Char.ofNat 0x2029

/-- Characters that end a line. -/
def isBreak (c : Char) : Bool := c = '\n' || c = '\r' || c = Char.ofNat 0x85 || isSeparator c

/-- What a line break is read as. -/
def breakChar (c : Char) : Char := if isSeparator c then c else '\n'

/-- Whether a text ends here or goes on with a blank or a line break. -/
def atGap : List Char → Bool
  | [] => true
  | c :: _ => isBlank c || isBreak c

/-- Whether a line starts with the mark of a document's start or end. -/
def atDocumentMark : List Char → Bool
  | '-' :: '-' :: '-' :: rest => atGap rest
  | '.' :: '.' :: '.' :: rest => atGap rest
  | _ => false

/-- What stands between two words of a scalar. -/
inductive Gap where
  | none
  | spaces (cs : List Char)
  /-- Line breaks: the first, unless it is escaped, and those after it. -/
  | breaks (first : Option Char) (more : List Char)
  deriving Repr, DecidableEq

namespace Gap

/-- The text that a gap stands for. -/
def text : Gap → List Char
  | .none => []
  | .spaces cs => cs
  | .breaks (some '\n') [] => [' ']
  | .breaks (some '\n') more => more
  | .breaks first more => first.toList ++ more

/-- The gap after one more blank. Blanks at the start of a line count for nothing. -/
def addBlank (c : Char) : Gap → Gap
  | .none => .spaces [c]
  | .spaces cs => .spaces (cs ++ [c])
  | gap => gap

/-- The gap after one more line break. -/
def addBreak (c : Char) : Gap → Gap
  | .breaks first more => .breaks first (more ++ [breakChar c])
  | _ => .breaks (some (breakChar c)) []

/-- Whether the gap reaches over a line. -/
def hasBreak : Gap → Bool
  | .breaks .. => true
  | _ => false

end Gap

/-- Characters that end a plain scalar inside brackets. -/
def isFlowIndicator (c : Char) : Bool :=
  [',', '[', ']', '\x7b', '\x7d'].contains c

/-- A scalar that has been read: its text, what follows it and where that stands, and whether a line
break came last. -/
structure Reading where
  text : List Char
  rest : List Char
  place : Place
  brokeLine : Bool

/-- A plain scalar of which `text` and `gap` have been read. Outside brackets it ends before a line
indented less than `indent`. -/
def plainFrom (inFlow : Bool) (indent : Int) (text : List Char) (gap : Gap) (place : Place) :
    List Char → Option Reading
  | [] => some ⟨text, [], place, gap.hasBreak⟩
  | '\r' :: '\n' :: rest => plainFrom inFlow indent text (gap.addBreak '\n') (place.nextLine 2) rest
  | c :: rest =>
    if isBreak c then plainFrom inFlow indent text (gap.addBreak c) (place.nextLine 1) rest
    else if isBlank c then
      if c = '\t' && gap.hasBreak && place.column < indent then none
      else plainFrom inFlow indent text (gap.addBlank c) (place.along 1) rest
    else if gap ≠ .none && (c = '#' || place.column = 0 && atDocumentMark (c :: rest) ||
        !inFlow && place.column < indent) then
      some ⟨text, c :: rest, place, gap.hasBreak⟩
    else if c = ':' && atGap rest || inFlow && isFlowIndicator c then
      some ⟨text, c :: rest, place, gap.hasBreak⟩
    else if inFlow && c = ':' && rest.head?.any (fun d => d = '?' || isFlowIndicator d) then none
    else plainFrom inFlow indent (text ++ gap.text ++ [c]) .none (place.along 1) rest

/-- The quote of scalars without escapes. -/
def singleQuote : Char := Char.ofNat 0x27

/-- A scalar in single quotes, in which only the quote itself is written twice. -/
def singleFrom (text : List Char) (gap : Gap) (place : Place) : List Char → Option Reading
  | [] => none
  | '\r' :: '\n' :: rest => singleFrom text (gap.addBreak '\n') (place.nextLine 2) rest
  | c :: rest =>
    if place.column = 0 && atDocumentMark (c :: rest) then none
    else if isBreak c then singleFrom text (gap.addBreak c) (place.nextLine 1) rest
    else if isBlank c then singleFrom text (gap.addBlank c) (place.along 1) rest
    else if c = singleQuote then
      match rest with
      | d :: after =>
        if d = singleQuote then
          singleFrom (text ++ gap.text ++ [singleQuote]) .none (place.along 2) after
        else some ⟨text ++ gap.text, d :: after, place.along 1, false⟩
      | [] => some ⟨text ++ gap.text, [], place.along 1, false⟩
    else singleFrom (text ++ gap.text ++ [c]) .none (place.along 1) rest

/-- The character that a one-letter escape denotes. -/
def escape? (c : Char) : Option Char :=
  ([('0', 0), ('a', 7), ('b', 8), ('t', 9), ('\t', 9), ('n', 10), ('v', 11), ('f', 12), ('r', 13),
    ('e', 27), (' ', 0x20), ('"', 0x22), ('/', 0x2F), ('\\', 0x5C), ('N', 0x85), ('_', 0xA0),
    ('L', 0x2028), ('P', 0x2029)].lookup c).map Char.ofNat

/-- The character with a code in hexadecimal digits. -/
def hexChar? (digits : List Char) : Option Char := do
  let values ← digits.mapM Json.hexValue
  Json.scalar? (values.foldl (fun n d => 16 * n + d) 0)

/-- A scalar in double quotes. -/
def doubleFrom (text : List Char) (gap : Gap) (place : Place) : List Char → Option Reading
  | [] => none
  | '"' :: rest => some ⟨text ++ gap.text, rest, place.along 1, false⟩
  | '\r' :: '\n' :: rest => doubleFrom text (gap.addBreak '\n') (place.nextLine 2) rest
  | '\\' :: '\r' :: '\n' :: rest =>
    doubleFrom (text ++ gap.text) (.breaks none []) (place.nextLine 3) rest
  | '\\' :: 'x' :: a :: b :: rest =>
    match hexChar? [a, b] with
    | some ch => doubleFrom (text ++ gap.text ++ [ch]) .none (place.along 4) rest
    | none => none
  | '\\' :: 'u' :: a :: b :: c :: d :: rest =>
    match hexChar? [a, b, c, d] with
    | some ch => doubleFrom (text ++ gap.text ++ [ch]) .none (place.along 6) rest
    | none => none
  | '\\' :: 'U' :: a :: b :: c :: d :: e :: f :: g :: h :: rest =>
    match hexChar? [a, b, c, d, e, f, g, h] with
    | some ch => doubleFrom (text ++ gap.text ++ [ch]) .none (place.along 10) rest
    | none => none
  | '\\' :: c :: rest =>
    if isBreak c then doubleFrom (text ++ gap.text) (.breaks none []) (place.nextLine 2) rest
    else
      match escape? c with
      | some ch => doubleFrom (text ++ gap.text ++ [ch]) .none (place.along 2) rest
      | none => none
  | c :: rest =>
    if place.column = 0 && atDocumentMark (c :: rest) then none
    else if isBreak c then doubleFrom text (gap.addBreak c) (place.nextLine 1) rest
    else if isBlank c then doubleFrom text (gap.addBlank c) (place.along 1) rest
    else doubleFrom (text ++ gap.text ++ [c]) .none (place.along 1) rest

/-! ### Block scalars -/

/-- What a block scalar does with the line breaks at its end. -/
inductive Chomping where
  | strip
  | clip
  | keep
  deriving Repr, DecidableEq

/-- The chomping that an indicator asks for. -/
def chomping? (c : Char) : Option Chomping :=
  if c = '-' then some .strip else if c = '+' then some .keep else none

/-- The indentation and chomping indicators of a block scalar, in either order, and what follows
them. An indentation of zero stands for none. -/
def blockHeader? : List Char → Option (Nat × Chomping × List Char)
  | [] => some (0, .clip, [])
  | c :: rest =>
    match chomping? c, c.isDigit with
    | some chomping, _ =>
      match rest with
      | d :: after =>
        if d = '0' then none
        else if d.isDigit then some (d.toNat - 0x30, chomping, after)
        else some (0, chomping, rest)
      | [] => some (0, chomping, [])
    | none, true =>
      if c = '0' then none
      else
        match rest.head?.bind chomping? with
        | some chomping => some (c.toNat - 0x30, chomping, rest.drop 1)
        | none => some (c.toNat - 0x30, .clip, rest)
    | none, false => some (0, .clip, c :: rest)

/-- A text and the place where it stands, after the blanks and the comment that it starts with; no
text goes on after these but at a line break. -/
def skipComment? (place : Place) (cs : List Char) : Option (List Char × Place) :=
  let rest := cs.dropWhile isBlank
  let rest := if rest.head? = some '#' then rest.dropWhile (!isBreak ·) else rest
  if rest.head?.all isBreak then some (rest, place.along (cs.length - rest.length)) else none

/-- A text and the place where it stands, after the line break that it starts with. -/
def skipBreak (place : Place) : List Char → List Char × Place
  | '\r' :: '\n' :: rest => (rest, place.nextLine 2)
  | c :: rest => if isBreak c then (rest, place.nextLine 1) else (c :: rest, place)
  | [] => ([], place)

/-- The line break that a text starts with, as it is read. -/
def firstBreak : List Char → List Char
  | c :: _ => if isBreak c then [breakChar c] else []
  | [] => []

/-- What stands before a line of a block scalar: the indentation of the scalar, the line breaks, and
the text of the line and its place. -/
structure BlockGap where
  indent : Nat
  breaks : List Char
  rest : List Char
  place : Place

/-- The line breaks and indentation before a line of a block scalar. Where its indentation is not
known yet, it becomes that of the line, or of an empty line before it that is longer, but at least
`least`. A tab may not stand where indentation is expected. -/
def blockGap (least indent widest : Nat) (breaks : List Char) (place : Place) :
    List Char → Option BlockGap
  | [] => some ⟨found least indent (max widest place.column), breaks, [], place⟩
  | '\r' :: '\n' :: rest =>
    blockGap least indent (max widest place.column) (breaks ++ ['\n']) (place.nextLine 2) rest
  | c :: rest =>
    let inIndent := indent = 0 || place.column < indent
    if c = ' ' && inIndent then blockGap least indent widest breaks (place.along 1) rest
    else if c = '\t' && inIndent then none
    else if isBreak c then
      blockGap least indent (max widest place.column) (breaks ++ [breakChar c]) (place.nextLine 1)
        rest
    else some ⟨found least indent (max widest place.column), breaks, c :: rest, place⟩
where
  /-- The indentation once a line has been found. -/
  found (least indent widest : Nat) : Nat := if indent = 0 then max widest least else indent

/-- The text of a block scalar so far, the line break after it and whether its last line starts with
a blank. -/
structure BlockText where
  text : List Char
  lastBreak : List Char
  indented : Bool

/-- The text with one more line. The break between two lines becomes a space in a folded scalar, but
not next to a line that starts with a blank, and not where empty lines stand between the two. -/
def BlockText.add (folded : Bool) (b : BlockText) (breaks line : List Char) : BlockText :=
  let indented := line.head?.any isBlank
  let between :=
    if folded && b.lastBreak = ['\n'] && !b.indented && !indented then
      if breaks.isEmpty then [' '] else breaks
    else b.lastBreak ++ breaks
  ⟨b.text ++ between ++ line, [], indented⟩

/-- The lines of a block scalar from the one that comes after a gap. Each round takes up a line, so
`fuel` need not exceed the length of the text by more than one. -/
def blockLines (folded : Bool) (b : BlockText) : Nat → BlockGap → Option (BlockText × BlockGap)
  | 0, _ => none
  | fuel + 1, gap => do
    if gap.place.column ≠ gap.indent || gap.rest.isEmpty then return (b, gap)
    else
      let line := gap.rest.takeWhile (!isBreak ·)
      let after := gap.rest.drop line.length
      let (rest, place) := skipBreak (gap.place.along line.length) after
      let next ← blockGap gap.indent gap.indent 0 [] place rest
      blockLines folded { b.add folded gap.breaks line with lastBreak := firstBreak after } fuel next

/-- The text of a block scalar with the breaks at its end. -/
def BlockText.chomp (b : BlockText) (breaks : List Char) : Chomping → List Char
  | .strip => b.text
  | .clip => b.text ++ b.lastBreak
  | .keep => b.text ++ b.lastBreak ++ breaks

/-- A block scalar whose indicator has been read, in a block indented by `parent`. -/
def blockScalar (folded : Bool) (parent : Int) (place : Place) (cs : List Char) :
    Option Reading := do
  let (given, chomping, rest) ← blockHeader? cs
  let (rest, place) ← skipComment? (place.along (cs.length - rest.length)) rest
  let (rest, place) := skipBreak place rest
  let least := (max (parent + 1) 1).toNat
  let indent := if given = 0 then 0 else (max parent 0).toNat + given
  let gap ← blockGap least indent 0 [] place rest
  let (b, gap) ← blockLines folded ⟨[], [], false⟩ (cs.length + 1) gap
  return ⟨b.chomp gap.breaks chomping, gap.rest, gap.place, true⟩

end DataModel.Yaml
