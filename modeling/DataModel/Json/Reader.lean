import DataModel.Json.Basic

/-!
# Reading JSON

`Json.parse` accepts the grammar of RFC 8259. An integer literal between `-2⁶³` and `2⁶⁴ - 1` is an
integer, every other number the nearest binary64 number; `-0` keeps its sign and is therefore a
binary64 number, and a number beyond the finite range is refused. A `\u` escape denotes a
character, surrogates only in pairs.

Every function takes the text that is left and returns what is left after it. The depth of nesting
is bounded by the length of the text, which `parse` hands to `value` as its fuel.
-/

namespace DataModel.Json

/-- The text after leading blanks. -/
def skipBlanks (cs : List Char) : List Char :=
  cs.dropWhile fun c => c = ' ' || c = '\t' || c = '\n' || c = '\r'

/-- The value of a hexadecimal digit. -/
def hexValue (c : Char) : Option Nat :=
  let n := c.toNat
  if 0x30 ≤ n && n ≤ 0x39 then some (n - 0x30)
  else if 0x41 ≤ n && n ≤ 0x46 then some (n - 0x41 + 10)
  else if 0x61 ≤ n && n ≤ 0x66 then some (n - 0x61 + 10)
  else none

/-- The value of four hexadecimal digits. -/
def hexQuad (a b c d : Char) : Option Nat := do
  return ((← hexValue a) * 16 + (← hexValue b)) * 256 + (← hexValue c) * 16 + (← hexValue d)

/-- The character that a one-letter escape denotes. -/
def simpleEscape (c : Char) : Option Char :=
  if c = '"' then some '"'
  else if c = '\\' then some '\\'
  else if c = '/' then some '/'
  else if c = 'b' then some (Char.ofNat 8)
  else if c = 'f' then some (Char.ofNat 12)
  else if c = 'n' then some '\n'
  else if c = 'r' then some '\r'
  else if c = 't' then some '\t'
  else none

/-- The character with this code point, unless it is a surrogate or out of range. -/
def scalar? (n : Nat) : Option Char :=
  if n.isValidChar then some (Char.ofNat n) else none

/-- The characters of a string up to its closing quote, and the text after the quote. -/
def stringTail : List Char → Option (List Char × List Char)
  | [] => none
  | '"' :: rest => some ([], rest)
  | '\\' :: 'u' :: a :: b :: c :: d :: rest =>
    match hexQuad a b c d with
    | none => none
    | some high =>
      match scalar? high with
      | some ch => (stringTail rest).map fun (s, r) => (ch :: s, r)
      | none =>
        match rest with
        | '\\' :: 'u' :: e :: f :: g :: h :: rest =>
          match hexQuad e f g h with
          | none => none
          | some low =>
            if high < 0xDC00 && 0xDC00 ≤ low && low ≤ 0xDFFF then
              (stringTail rest).map fun (s, r) =>
                (Char.ofNat (0x10000 + (high - 0xD800) * 0x400 + (low - 0xDC00)) :: s, r)
            else none
        | _ => none
  | '\\' :: c :: rest =>
    match simpleEscape c with
    | none => none
    | some ch => (stringTail rest).map fun (s, r) => (ch :: s, r)
  | ['\\'] => none
  | c :: rest =>
    if c.toNat < 0x20 then none
    else (stringTail rest).map fun (s, r) => (c :: s, r)

/-- The number that a run of decimal digits denotes. -/
def natOfDigits (ds : List Char) : Nat :=
  ds.foldl (fun n d => n * 10 + (d.toNat - 0x30)) 0

/-- A run of decimal digits and the text after it. -/
def digitRun (cs : List Char) : List Char × List Char :=
  cs.span Char.isDigit

/-- An exponent part, absent unless the text starts with its letter. -/
def exponentPart : List Char → Option (Option Int × List Char)
  | [] => some (none, [])
  | c :: rest =>
    if c = 'e' || c = 'E' then
      let (negative, rest) :=
        match rest with
        | '-' :: r => (true, r)
        | '+' :: r => (false, r)
        | r => (false, r)
      let (ds, rest) := digitRun rest
      if ds.isEmpty then none
      else some (some (if negative then -natOfDigits ds else natOfDigits ds), rest)
    else some (none, c :: rest)

/-- A fraction part, absent unless the text starts with a point. -/
def fractionPart : List Char → Option (Option (List Char) × List Char)
  | '.' :: rest =>
    let (ds, rest) := digitRun rest
    if ds.isEmpty then none else some (some ds, rest)
  | cs => some (none, cs)

/-- The value of a number with the given parts. -/
def numberValue (negative : Bool) (whole : List Char) (fraction : Option (List Char))
    (exponent : Option Int) : Option Json :=
  let n := natOfDigits whole
  let asFloat (x : Binary64) : Option Json := if x.isInfinite then none else some (.float x)
  match fraction, exponent with
  | none, none =>
    if negative then
      if n = 0 then some (.float (.zero true))
      else if fitsInt64 (-n) then some (.int (-n))
      else asFloat (.ofDecimal true n 0)
    else if fitsUInt64 n then some (.int n)
    else asFloat (.ofDecimal false n 0)
  | fraction, exponent =>
    let ds := fraction.getD []
    asFloat (.ofDecimal negative (natOfDigits (whole ++ ds)) (exponent.getD 0 - ds.length))

/-- A number after its sign. -/
def number (negative : Bool) (cs : List Char) : Option (Json × List Char) := do
  let (whole, rest) := digitRun cs
  if whole.isEmpty || (whole.length > 1 && whole.head? = some '0') then none
  let (fraction, rest) ← fractionPart rest
  let (exponent, rest) ← exponentPart rest
  return (← numberValue negative whole fraction exponent, rest)

mutual

/-- A value, after leading blanks. -/
def value : Nat → List Char → Option (Json × List Char)
  | 0, _ => none
  | fuel + 1, cs =>
    match skipBlanks cs with
    | 'n' :: 'u' :: 'l' :: 'l' :: rest => some (.null, rest)
    | 't' :: 'r' :: 'u' :: 'e' :: rest => some (.bool true, rest)
    | 'f' :: 'a' :: 'l' :: 's' :: 'e' :: rest => some (.bool false, rest)
    | '"' :: rest => (stringTail rest).map fun (s, r) => (.string (String.ofList s), r)
    | '[' :: rest =>
      match skipBlanks rest with
      | ']' :: rest => some (.array [], rest)
      | rest => (items fuel rest).map fun (xs, r) => (.array xs, r)
    | '\x7b' :: rest =>
      match skipBlanks rest with
      | '\x7d' :: rest => some (.object [], rest)
      | rest => (entries fuel rest).map fun (xs, r) => (.object xs, r)
    | '-' :: rest => number true rest
    | rest => number false rest
termination_by structural fuel => fuel

/-- One or more items and the closing bracket. -/
def items : Nat → List Char → Option (List Json × List Char)
  | 0, _ => none
  | fuel + 1, cs =>
    match value fuel cs with
    | none => none
    | some (item, rest) =>
      match skipBlanks rest with
      | ']' :: rest => some ([item], rest)
      | ',' :: rest => (items fuel rest).map fun (xs, r) => (item :: xs, r)
      | _ => none
termination_by structural fuel => fuel

/-- One or more entries and the closing brace. -/
def entries : Nat → List Char → Option (List (String × Json) × List Char)
  | 0, _ => none
  | fuel + 1, cs =>
    match skipBlanks cs with
    | '"' :: rest =>
      match stringTail rest with
      | none => none
      | some (key, rest) =>
        match skipBlanks rest with
        | ':' :: rest =>
          match value fuel rest with
          | none => none
          | some (item, rest) =>
            match skipBlanks rest with
            | '\x7d' :: rest => some ([(String.ofList key, item)], rest)
            | ',' :: rest =>
              (entries fuel rest).map fun (xs, r) => ((String.ofList key, item) :: xs, r)
            | _ => none
        | _ => none
    | _ => none
termination_by structural fuel => fuel

end

/-- The value that a text denotes, if it is the text of one value. -/
def parse (text : String) : Option Json :=
  match value (text.toList.length + 1) text.toList with
  | some (v, rest) => if (skipBlanks rest).isEmpty then some v else none
  | none => none

end DataModel.Json
