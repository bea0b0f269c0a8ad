import DataModel.Text.Words

/-!
# Names derived from declarations

The naming rules that tables, columns, relations and query fields share. A table is named by the
plural of its type in snake case, a reference column by its field in snake case followed by
`_id`. Plurals are formed by the ending of the word alone, and the ending is compared without
regard to ASCII case.
-/

namespace DataModel

/-- The word with its first character in capital form. -/
def capitalize (s : String) : String :=
  match s.toList with
  | [] => ""
  | first :: rest => String.ofList (Text.upperChars first ++ rest)

/-- The vowels after which a final `y` stays in the plural. -/
def keepsFinalY (c : Char) : Bool := ['a', 'e', 'o', 'u'].contains c

/-- Whether a word, given last character first and in small letters, ends in a consonant and `y`.
A word that is `y` alone counts as well. -/
def endsInConsonantY : List Char → Bool
  | 'y' :: c :: _ => !keepsFinalY c
  | ['y'] => true
  | _ => false

/-- Whether a word, given last character first and in small letters, ends in a sibilant. -/
def endsInSibilant : List Char → Bool
  | 's' :: _ => true
  | 'x' :: _ => true
  | 'z' :: _ => true
  | 'h' :: 'c' :: _ => true
  | 'h' :: 's' :: _ => true
  | _ => false

/-- The English plural: `y` after a consonant becomes `ies`, a sibilant takes `es`, any other
word `s`. -/
def pluralize (word : String) : String :=
  let ending := word.toList.reverse.map Char.toLower
  if endsInConsonantY ending then String.ofList word.toList.dropLast ++ "ies"
  else if endsInSibilant ending then word ++ "es"
  else word ++ "s"

/-- The table that holds the rows of an object type. -/
def tableName (typeName : String) : String :=
  Text.snakeCase (pluralize typeName)

/-- The column by which a relation field refers to its target. -/
def referenceColumn (name : String) : String :=
  Text.snakeCase name ++ "_id"

end DataModel
