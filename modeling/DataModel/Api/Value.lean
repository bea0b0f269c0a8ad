import DataModel.Json.Basic

/-!
# Values of requests

The values that a request hands to the generated API: literals of the query language and values of
variables. They differ from JSON in having enum values, which become strings when they are handed
on to the database.

An object has its entries in order and each key once.
-/

namespace DataModel.Api

/-- A value in a request. -/
inductive Value where
  | null
  | boolean (value : Bool)
  | int (value : Int)
  | float (value : Binary64)
  | string (value : String)
  | enum (value : String)
  | list (items : List Value)
  | object (entries : List (String × Value))

instance : Inhabited Value := ⟨.null⟩

namespace Value

/-- The entries of an object. -/
def entries? : Value → Option (List (String × Value))
  | .object entries => some entries
  | _ => none

mutual

/-- The JSON value that is stored or compared. -/
def toJson : Value → Json
  | .null => .null
  | .boolean b => .bool b
  | .int n => .int n
  | .float x => .float x
  | .string s => .string s
  | .enum s => .string s
  | .list items => .array (itemsToJson items)
  | .object entries => .object (entriesToJson entries)
termination_by structural v => v

/-- The JSON values of items. -/
def itemsToJson : List Value → List Json
  | [] => []
  | v :: rest => v.toJson :: itemsToJson rest
termination_by structural items => items

/-- The JSON values of entries. -/
def entriesToJson : List (String × Value) → List (String × Json)
  | [] => []
  | (key, v) :: rest => (key, v.toJson) :: entriesToJson rest
termination_by structural entries => entries

end

/-- Control characters. -/
def isControl (c : Char) : Bool :=
  c.toNat < 0x20 || (0x7F ≤ c.toNat && c.toNat ≤ 0x9F)

/-- How one character stands in a quoted text. A control character without a short form is written
by its decimal code in at least four places. -/
def escape (c : Char) : List Char :=
  if c = '"' then ['\\', '"']
  else if c = '\\' then ['\\', '\\']
  else if c = '\n' then ['\\', 'n']
  else if c = '\r' then ['\\', 'r']
  else if c = '\t' then ['\\', 't']
  else if isControl c then
    let ds := Nat.toDigits 10 c.toNat
    ['\\', 'u'] ++ List.replicate (4 - ds.length) '0' ++ ds
  else [c]

mutual

/-- The value as the query language writes it. -/
def display : Value → String
  | .null => "null"
  | .boolean true => "true"
  | .boolean false => "false"
  | .int n => String.ofList (Json.intChars n)
  | .float x => x.jsonText
  | .string s => String.ofList ('"' :: s.toList.flatMap escape ++ ['"'])
  | .enum s => s
  | .list items => "[" ++ ", ".intercalate (displayItems items) ++ "]"
  | .object entries => "\x7b" ++ ", ".intercalate (displayEntries entries) ++ "\x7d"
termination_by structural v => v

/-- The items as the query language writes them. -/
def displayItems : List Value → List String
  | [] => []
  | v :: rest => v.display :: displayItems rest
termination_by structural items => items

/-- The entries as the query language writes them. -/
def displayEntries : List (String × Value) → List String
  | [] => []
  | (key, v) :: rest => (key ++ ": " ++ v.display) :: displayEntries rest
termination_by structural entries => entries

end

mutual

/-- The value that a JSON value stands for; an object keeps the last value of each key. -/
def ofJson : Json → Value
  | .null => .null
  | .bool b => .boolean b
  | .int n => .int n
  | .float x => .float x
  | .string s => .string s
  | .array items => .list (itemsOfJson items)
  | .object entries => .object (Json.distinctEntries (entriesOfJson entries))
termination_by structural j => j

/-- The values that JSON items stand for. -/
def itemsOfJson : List Json → List Value
  | [] => []
  | j :: rest => ofJson j :: itemsOfJson rest
termination_by structural items => items

/-- The values that JSON entries stand for. -/
def entriesOfJson : List (String × Json) → List (String × Value)
  | [] => []
  | (key, j) :: rest => (key, ofJson j) :: entriesOfJson rest
termination_by structural entries => entries

end

end Value

end DataModel.Api
