import DataModel.Number.Decimal
import DataModel.Number.Width

/-!
# JSON values

Values with integers and binary64 numbers kept apart, as the data that passes through the library
does: an identifier `1` and a measurement `1.0` are different values with different texts. The
entries of an object keep their order.

`Json.render` is the compact text: no blanks, entries in order, and only those characters of a
string escaped that cannot stand in it.
-/

namespace DataModel

/-- A JSON value. -/
inductive Json where
  | null
  | bool (value : Bool)
  | int (value : Int)
  | float (value : Binary64)
  | string (value : String)
  | array (items : List Json)
  | object (entries : List (String × Json))

instance : Inhabited Json := ⟨.null⟩

namespace Json

/-- The value of the first entry with this key. -/
def get? (key : String) : Json → Option Json
  | .object entries => entries.lookup key
  | _ => none

/-- The entries of an object in which a repeated key keeps its first place and its last value. -/
def distinctEntries {α : Type} (entries : List (String × α)) : List (String × α) :=
  entries.foldl
    (fun done (key, value) =>
      if done.any (·.1 == key) then
        done.map fun entry => if entry.1 == key then (key, value) else entry
      else done ++ [(key, value)])
    []

/-- Inserts an entry into entries sorted by key, in place of one with the same key. -/
def insertEntry {α : Type} (key : String) (value : α) : List (String × α) → List (String × α)
  | [] => [(key, value)]
  | (k, v) :: rest =>
    if key = k then (key, value) :: rest
    else if key < k then (key, value) :: (k, v) :: rest
    else (k, v) :: insertEntry key value rest

/-- Entries sorted by key, the last one of each key. -/
def sortEntries {α : Type} (entries : List (String × α)) : List (String × α) :=
  entries.foldl (fun done (key, value) => insertEntry key value done) []

mutual

/-- The value with the entries of all objects sorted by key. -/
def sorted : Json → Json
  | .array items => .array (sortedItems items)
  | .object entries => .object (sortEntries (sortedEntries entries))
  | v => v
termination_by structural v => v

/-- The items with the entries of all objects sorted by key. -/
def sortedItems : List Json → List Json
  | [] => []
  | v :: rest => v.sorted :: sortedItems rest
termination_by structural items => items

/-- The entries with the entries of all objects in them sorted by key. -/
def sortedEntries : List (String × Json) → List (String × Json)
  | [] => []
  | (key, v) :: rest => (key, v.sorted) :: sortedEntries rest
termination_by structural entries => entries

end

/-- The text of a string. -/
def string? : Json → Option String
  | .string s => some s
  | _ => none

/-- The truth value. -/
def bool? : Json → Option Bool
  | .bool b => some b
  | _ => none

/-- The integer, in 64 bits with sign. -/
def int64? : Json → Option Int64
  | .int n => if fitsInt64 n then some (Int64.ofInt n) else none
  | _ => none

/-- The integer, in 32 bits without sign. -/
def uint32? : Json → Option UInt32
  | .int n => if fitsUInt32 n then some (UInt32.ofNat n.toNat) else none
  | _ => none

/-- The number nearest to a number of either kind. -/
def binary64? : Json → Option Binary64
  | .int n => some (.ofInt n)
  | .float x => some x
  | _ => none

/-- The items of an array, each decoded. -/
def list? {α : Type} (decode : Json → Option α) : Json → Option (List α)
  | .array items => items.mapM decode
  | _ => none

/-- The decoded value of an entry that has to be there. -/
def entry? {α : Type} (decode : Json → Option α) (key : String) (value : Json) : Option α :=
  (value.get? key).bind decode

/-- The decoded value of an entry that may be absent or null. -/
def optionalEntry? {α : Type} (decode : Json → Option α) (key : String) (value : Json) :
    Option (Option α) :=
  match value.get? key with
  | none => some none
  | some .null => some none
  | some v => (decode v).map some

/-- The decoded value of an entry, or a default where it is absent. -/
def entryOr? {α : Type} (absent : α) (decode : Json → Option α) (key : String) (value : Json) :
    Option α :=
  match value.get? key with
  | none => some absent
  | some v => decode v

/-- Hexadecimal digits of a number below 256, two places. -/
def hexByte (n : Nat) : List Char :=
  [Nat.digitChar (n / 16), Nat.digitChar (n % 16)]

/-- How one character stands in a string. -/
def escape (c : Char) : List Char :=
  if c = '"' then ['\\', '"']
  else if c = '\\' then ['\\', '\\']
  else if c = Char.ofNat 8 then ['\\', 'b']
  else if c = Char.ofNat 12 then ['\\', 'f']
  else if c = '\n' then ['\\', 'n']
  else if c = '\r' then ['\\', 'r']
  else if c = '\t' then ['\\', 't']
  else if c.toNat < 0x20 then ['\\', 'u', '0', '0'] ++ hexByte c.toNat
  else [c]

/-- A string between double quotes. -/
def stringChars (s : String) : List Char :=
  '"' :: s.toList.flatMap escape ++ ['"']

/-- Decimal text of an integer. -/
def intChars (n : Int) : List Char :=
  if n < 0 then '-' :: Nat.toDigits 10 n.natAbs else Nat.toDigits 10 n.natAbs

mutual

/-- The compact text of a value. -/
def chars : Json → List Char
  | .null => ['n', 'u', 'l', 'l']
  | .bool true => ['t', 'r', 'u', 'e']
  | .bool false => ['f', 'a', 'l', 's', 'e']
  | .int n => intChars n
  | .float x => x.jsonText.toList
  | .string s => stringChars s
  | .array [] => ['[', ']']
  | .array (item :: items) => '[' :: item.chars ++ moreItems items
  | .object [] => ['\x7b', '\x7d']
  | .object ((key, value) :: entries) =>
    '\x7b' :: stringChars key ++ ':' :: value.chars ++ moreEntries entries
termination_by structural value => value

/-- The items after the first one and the closing bracket. -/
def moreItems : List Json → List Char
  | [] => [']']
  | item :: items => ',' :: item.chars ++ moreItems items
termination_by structural items => items

/-- The entries after the first one and the closing brace. -/
def moreEntries : List (String × Json) → List Char
  | [] => ['\x7d']
  | (key, value) :: entries =>
    ',' :: stringChars key ++ ':' :: value.chars ++ moreEntries entries
termination_by structural entries => entries

end

/-- The compact text of a value. -/
def render (value : Json) : String :=
  String.ofList value.chars

end Json

end DataModel
