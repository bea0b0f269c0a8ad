import DataModel.Json.Reader
import DataModel.Text.Blank

/-!
# Tokens

The lexical layer shared by the two languages of the library: the schema language, in which a data
model is declared, and the query language of the generated API. Both are made of names,
punctuators, numbers and strings, separated by blanks, commas and comments; where they differ, the
difference is a field of `Lexicon`.

`Token.scan` splits a text into its tokens or refuses it. Every character belongs to a token or
is ignored, and there is no token that a later character could turn into another one.

Block strings are read in three steps: the raw text up to the closing quotes, its lines, and the
lines without the indentation they share.
-/

namespace DataModel

/-- A number as written: sign, digits before and after the point, exponent. -/
structure NumberText where
  negative : Bool
  whole : List Char
  fraction : Option (List Char)
  exponent : Option Int
  deriving Repr, DecidableEq

/-- A lexical unit. -/
inductive Token where
  | punctuator (c : Char)
  | spread
  | name (text : String)
  | number (value : NumberText)
  | string (text : String)
  deriving Repr, DecidableEq

/-- What the two languages decide differently about the same kinds of token. -/
structure Lexicon where
  /-- The character that the escape `\b` denotes. -/
  backspace : Char
  /-- What may follow the letter of an exponent. -/
  startsExponent : Char → Bool
  /-- What counts as indentation inside a block string. -/
  isIndent : Char → Bool
  /-- Whether a carriage return alone ends a line: it may then not stand in a string, and it
  separates the lines of a block string. -/
  breaksAtReturn : Bool
  /-- How many brackets may be open at once. -/
  maxOpen : Nat

namespace NumberText

/-- Whether the number is written without point and exponent. -/
def isInteger (n : NumberText) : Bool :=
  n.fraction.isNone && n.exponent.isNone

/-- The integer that a number without point and exponent denotes. -/
def toInt (n : NumberText) : Int :=
  if n.negative then -Json.natOfDigits n.whole else Json.natOfDigits n.whole

/-- The binary64 number nearest to the number. -/
def toBinary64 (n : NumberText) : Binary64 :=
  let fraction := n.fraction.getD []
  .ofDecimal n.negative (Json.natOfDigits (n.whole ++ fraction))
    (n.exponent.getD 0 - fraction.length)

end NumberText

/-- Letters and the underscore begin a name. -/
def isNameStart (c : Char) : Bool :=
  c.isAlpha || c = '_'

/-- Letters, digits and the underscore continue a name. -/
def isNameChar (c : Char) : Bool :=
  c.isAlphanum || c = '_'

/-- A name of the two languages: a letter or underscore, then letters, digits and underscores. -/
def isName (s : String) : Bool :=
  match s.toList with
  | [] => false
  | c :: rest => isNameStart c && rest.all isNameChar

namespace Token

/-- The punctuators of one character. -/
def isPunctuator (c : Char) : Bool :=
  ['(', '[', '\x7b', ')', ']', '\x7d', '!', '$', ':', '=', '@', '|', '&'].contains c

/-- Characters that separate tokens and mean nothing else. -/
def isIgnored (c : Char) : Bool :=
  [' ', '\t', '\r', '\n', ',', Char.ofNat 0xFEFF].contains c

/-- Characters at which a number ends. -/
def endsNumber (c : Char) : Bool :=
  [' ', '\n', '\r', '\t', ',', '#', '!', '$', ':', '=', '@', '|', '&', '(', ')', '[', ']',
    '\x7b', '\x7d'].contains c

/-- The exponent written after its letter: a sign or none, then digits. -/
def exponent? (lexicon : Lexicon) (cs : List Char) : Option Int :=
  match cs with
  | [] => none
  | c :: rest =>
    if !lexicon.startsExponent c then none
    else
      let digits := if c = '+' || c = '-' then rest else cs
      if digits.isEmpty || !digits.all Char.isDigit then none
      else if c = '-' then some (-Json.natOfDigits digits)
      else some (Json.natOfDigits digits)

/-- The point and exponent of a number whose sign and whole part have been read. -/
def numberTail? (lexicon : Lexicon) (negative : Bool) (whole : List Char) (cs : List Char) :
    Option NumberText :=
  let (fraction, rest) : Option (List Char) × List Char :=
    match cs with
    | '.' :: rest => (some (rest.takeWhile Char.isDigit), rest.dropWhile Char.isDigit)
    | _ => (none, cs)
  if fraction = some [] then none
  else
    match rest with
    | [] => some ⟨negative, whole, fraction, none⟩
    | c :: rest =>
      if c = 'e' || c = 'E' then
        (exponent? lexicon rest).map fun e => ⟨negative, whole, fraction, some e⟩
      else none

/-- The number that a text without separators denotes. The whole part has no leading zeros. -/
def number? (lexicon : Lexicon) (cs : List Char) : Option NumberText :=
  let (negative, cs) : Bool × List Char :=
    match cs with
    | '-' :: rest => (true, rest)
    | _ => (false, cs)
  let whole := cs.takeWhile Char.isDigit
  if whole = [] || (whole.head? = some '0' && whole ≠ ['0']) then none
  else numberTail? lexicon negative whole (cs.dropWhile Char.isDigit)

/-- The character that an escape of one letter denotes. -/
def escape? (lexicon : Lexicon) (c : Char) : Option Char :=
  if c = 'b' then some lexicon.backspace else Json.simpleEscape c

/-- The characters of a string up to its closing quote and the text after the quote. -/
def stringTail? (lexicon : Lexicon) : List Char → Option (List Char × List Char)
  | [] => none
  | '"' :: rest => some ([], rest)
  | '\n' :: _ => none
  | '\\' :: 'u' :: a :: b :: c :: d :: rest =>
    match (Json.hexQuad a b c d).bind Json.scalar? with
    | none => none
    | some ch => (stringTail? lexicon rest).map fun (s, r) => (ch :: s, r)
  | '\\' :: c :: rest =>
    match escape? lexicon c with
    | none => none
    | some ch => (stringTail? lexicon rest).map fun (s, r) => (ch :: s, r)
  | ['\\'] => none
  | c :: rest =>
    if c = '\r' && lexicon.breaksAtReturn then none
    else (stringTail? lexicon rest).map fun (s, r) => (c :: s, r)

/-- The raw text of a block string up to its closing quotes and the text after them. Three quotes
directly after a backslash belong to the string. -/
def blockTail? : List Char → Option (List Char × List Char)
  | [] => none
  | '\\' :: '"' :: '"' :: '"' :: rest =>
    (blockTail? rest).map fun (s, r) => ('\\' :: '"' :: '"' :: '"' :: s, r)
  | '"' :: '"' :: '"' :: rest => some ([], rest)
  | c :: rest => (blockTail? rest).map fun (s, r) => (c :: s, r)

/-- The lines of a text of which `line` has been read. -/
def linesAfter (breaksAtReturn : Bool) (line : List Char) : List Char → List (List Char)
  | [] => [line]
  | '\r' :: '\n' :: rest => line :: linesAfter breaksAtReturn [] rest
  | '\n' :: rest => line :: linesAfter breaksAtReturn [] rest
  | '\r' :: rest =>
    if breaksAtReturn then line :: linesAfter breaksAtReturn [] rest
    else linesAfter breaksAtReturn (line ++ ['\r']) rest
  | c :: rest => linesAfter breaksAtReturn (line ++ [c]) rest

/-- The length of a text in bytes of UTF-8. -/
def byteLength (cs : List Char) : Nat :=
  cs.foldl (fun n c => n + c.utf8Size) 0

/-- The text after its first `n` bytes. -/
def dropBytes : Nat → List Char → List Char
  | _, [] => []
  | n, c :: rest => if n = 0 then c :: rest else dropBytes (n - c.utf8Size) rest

/-- The least indentation of the lines that have anything else in them. -/
def commonIndent (lexicon : Lexicon) (lines : List (List Char)) : Nat :=
  let indents := (lines.filter (·.any (!lexicon.isIndent ·))).map fun line =>
    byteLength (line.takeWhile lexicon.isIndent)
  indents.min?.getD 0

/-- Every escaped closing mark written plainly. -/
def unescapeQuotes : List Char → List Char
  | '\\' :: '"' :: '"' :: '"' :: rest => '"' :: '"' :: '"' :: unescapeQuotes rest
  | c :: rest => c :: unescapeQuotes rest
  | [] => []

/-- The value of a block string: the first line as it stands, the others without their common
indentation, and no empty lines at either end. -/
def blockValue (lexicon : Lexicon) (raw : List Char) : List Char :=
  let isBlankLine (line : List Char) : Bool := line.all lexicon.isIndent
  let trimmed :=
    match linesAfter lexicon.breaksAtReturn [] raw with
    | [] => []
    | first :: rest =>
      let indent := commonIndent lexicon rest
      first :: rest.map fun line => if byteLength line < indent then line else dropBytes indent line
  let kept := ((trimmed.dropWhile isBlankLine).reverse.dropWhile isBlankLine).reverse
  ['\n'].intercalate (kept.map unescapeQuotes)

/-- The tokens of a text. `fuel` bounds their number and `opened` counts the brackets that are open
where the text starts. -/
def scanFrom (lexicon : Lexicon) : Nat → Nat → List Char → Option (List Token)
  | _, _, [] => some []
  | 0, _, _ :: _ => none
  | fuel + 1, opened, c :: rest =>
    if isIgnored c then scanFrom lexicon fuel opened rest
    else if c = '#' then
      scanFrom lexicon fuel opened (rest.dropWhile fun d => d ≠ '\n' && d ≠ '\r')
    else if isNameStart c then
      (scanFrom lexicon fuel opened (rest.dropWhile isNameChar)).map
        (.name (String.ofList (c :: rest.takeWhile isNameChar)) :: ·)
    else if c = '(' || c = '[' || c = '\x7b' then
      if lexicon.maxOpen ≤ opened then none
      else (scanFrom lexicon fuel (opened + 1) rest).map (.punctuator c :: ·)
    else if c = ')' || c = ']' || c = '\x7d' then
      (scanFrom lexicon fuel (opened - 1) rest).map (.punctuator c :: ·)
    else if isPunctuator c then
      (scanFrom lexicon fuel opened rest).map (.punctuator c :: ·)
    else if c = '-' || c.isDigit then
      match number? lexicon (c :: rest.takeWhile (!endsNumber ·)) with
      | none => none
      | some n =>
        (scanFrom lexicon fuel opened (rest.dropWhile (!endsNumber ·))).map (.number n :: ·)
    else
      match c, rest with
      | '.', '.' :: '.' :: rest => (scanFrom lexicon fuel opened rest).map (.spread :: ·)
      | '"', '"' :: '"' :: rest =>
        match blockTail? rest with
        | none => none
        | some (raw, rest) =>
          (scanFrom lexicon fuel opened rest).map
            (.string (String.ofList (blockValue lexicon raw)) :: ·)
      | '"', rest =>
        match stringTail? lexicon rest with
        | none => none
        | some (s, rest) =>
          (scanFrom lexicon fuel opened rest).map (.string (String.ofList s) :: ·)
      | _, _ => none

/-- The tokens of a text, or nothing when some part of it is no token. -/
def scan (lexicon : Lexicon) (text : String) : Option (List Token) :=
  scanFrom lexicon text.toList.length 0 text.toList

end Token

end DataModel
