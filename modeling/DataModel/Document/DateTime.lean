import DataModel.Json.Reader
import DataModel.Text.Blank

/-!
# Date and time literals

The texts that denote a point in time: an RFC 3339 timestamp with its offset, a local date and time
with `T` or blanks between the two, or a date alone. The date has to exist in the proleptic
Gregorian calendar and a minute may have a leap second.

The timestamp has fixed widths. The other forms are looser: blanks may stand before every number,
month, day and time have one or two digits, and a year has up to four digits or a sign and any
number of them.
-/

namespace DataModel.DateTime

/-- The first year that the calendar covers. -/
def firstYear : Int := -262143

/-- The last year that the calendar covers. -/
def lastYear : Int := 262142

/-- Every fourth year, except centuries that are not divisible by 400. -/
def isLeapYear (year : Int) : Bool :=
  year % 4 = 0 && (year % 100 ≠ 0 || year % 400 = 0)

/-- The number of days of a month, zero for a month that does not exist. -/
def daysInMonth (year : Int) (month : Nat) : Nat :=
  if month = 2 then if isLeapYear year then 29 else 28
  else if [4, 6, 9, 11].contains month then 30
  else if 1 ≤ month && month ≤ 12 then 31
  else 0

/-- Whether the calendar has this day. -/
def isDate (year : Int) (month day : Nat) : Bool :=
  firstYear ≤ year && year ≤ lastYear && 1 ≤ day && day ≤ daysInMonth year month

/-- Whether the clock shows this time; a minute may have a second 60. -/
def isTime (hour minute second : Nat) : Bool :=
  hour ≤ 23 && minute ≤ 59 && second ≤ 60

/-- Between one and `limit` decimal digits, as many as there are. -/
def digitsUpTo (limit : Nat) (cs : List Char) : Option (Nat × List Char) :=
  let ds := (cs.take limit).takeWhile Char.isDigit
  if ds.isEmpty then none else some (Json.natOfDigits ds, cs.drop ds.length)

/-- Exactly `width` decimal digits. -/
def digitsExactly (width : Nat) (cs : List Char) : Option (Nat × List Char) :=
  let ds := cs.take width
  if ds.length = width && ds.all Char.isDigit then some (Json.natOfDigits ds, cs.drop width)
  else none

/-- The text after the character `c`. -/
def after (c : Char) : List Char → Option (List Char)
  | d :: rest => if d = c then some rest else none
  | [] => none

/-- The text after leading blanks. -/
def skipBlanks (cs : List Char) : List Char :=
  cs.dropWhile Text.isBlank

/-- A year: a sign and any number of digits, or up to four digits. -/
def looseYear (cs : List Char) : Option (Int × List Char) :=
  match skipBlanks cs with
  | '-' :: rest => (digitsUpTo rest.length rest).map fun (n, r) => (-(n : Int), r)
  | '+' :: rest => (digitsUpTo rest.length rest).map fun (n, r) => ((n : Int), r)
  | rest => (digitsUpTo 4 rest).map fun (n, r) => ((n : Int), r)

/-- One or two digits after blanks. -/
def looseNumber (cs : List Char) : Option (Nat × List Char) :=
  digitsUpTo 2 (skipBlanks cs)

/-- The text after an existing date in loose form. -/
def looseDate (cs : List Char) : Option (List Char) := do
  let (year, cs) ← looseYear cs
  let cs ← after '-' cs
  let (month, cs) ← looseNumber cs
  let cs ← after '-' cs
  let (day, cs) ← looseNumber cs
  if isDate year month day then some cs else none

/-- The text after a time in loose form. -/
def looseTime (cs : List Char) : Option (List Char) := do
  let (hour, cs) ← looseNumber cs
  let cs ← after ':' cs
  let (minute, cs) ← looseNumber cs
  let cs ← after ':' cs
  let (second, cs) ← looseNumber cs
  if isTime hour minute second then some cs else none

/-- The text after an existing date of fixed width. -/
def strictDate (cs : List Char) : Option (List Char) := do
  let (year, cs) ← digitsExactly 4 cs
  let cs ← after '-' cs
  let (month, cs) ← digitsExactly 2 cs
  let cs ← after '-' cs
  let (day, cs) ← digitsExactly 2 cs
  if isDate year month day then some cs else none

/-- The text after a time of fixed width. -/
def strictTime (cs : List Char) : Option (List Char) := do
  let (hour, cs) ← digitsExactly 2 cs
  let cs ← after ':' cs
  let (minute, cs) ← digitsExactly 2 cs
  let cs ← after ':' cs
  let (second, cs) ← digitsExactly 2 cs
  if isTime hour minute second then some cs else none

/-- The text after a fraction of a second, which may be absent. -/
def fraction : List Char → Option (List Char)
  | '.' :: rest =>
    if (rest.takeWhile Char.isDigit).isEmpty then none else some (rest.dropWhile Char.isDigit)
  | cs => some cs

/-- The text after an offset: the letter for none, or a sign with hours and minutes. -/
def offset : List Char → Option (List Char)
  | [] => none
  | c :: rest =>
    if c = 'Z' || c = 'z' then some rest
    else if c = '+' || c = '-' || c = Char.ofNat 0x2212 then do
      let (hour, cs) ← digitsExactly 2 rest
      let cs ← after ':' cs
      let (minute, cs) ← digitsExactly 2 cs
      if hour ≤ 23 && minute ≤ 59 then some cs else none
    else none

/-- The text after a timestamp with offset. -/
def timestamp (cs : List Char) : Option (List Char) := do
  let cs ← strictDate cs
  match cs with
  | c :: cs => if c = 'T' || c = 't' || c = ' ' then offset (← fraction (← strictTime cs)) else none
  | [] => none

/-- The text after a local date and time joined by `T`. -/
def joinedDateTime (cs : List Char) : Option (List Char) := do
  looseTime (← after 'T' (← looseDate cs))

/-- The text after a local date and time separated by blanks, if by anything. -/
def spacedDateTime (cs : List Char) : Option (List Char) := do
  looseTime (skipBlanks (← looseDate cs))

/-- Whether a text is a date, a local date and time, or a timestamp. -/
def isLiteral (s : String) : Bool :=
  [timestamp, joinedDateTime, spacedDateTime, looseDate].any fun form => form s.toList = some []

end DataModel.DateTime
