import DataModel.Text.Alphanumeric
import DataModel.Text.CaseMapping

/-!
# Words of an identifier

An identifier is a sequence of words, whatever its spelling: `BlogPost`, `blog_post` and
`blogPost` have the same two. Every character that is not alphanumeric separates chunks, and
inside a chunk a word ends where a lowercase letter meets a capital or before the last capital of
a run of capitals that a lowercase letter follows, so `XMLHttpRequest` reads `XML`, `Http`,
`Request`. Digits belong to the word they stand in and leave the case of the last letter in force.

The three spellings `snakeCase`, `lowerCamelCase` and `upperCamelCase` are joins of the words.
-/

namespace DataModel.Text

/-- The case of the last letter of the word that is being read. -/
inductive LastCase where
  | none
  | lower
  | upper
  deriving Repr, DecidableEq

/-- The case in force once `c` has been read; a character without case changes nothing. -/
def LastCase.read (last : LastCase) (c : Char) : LastCase :=
  if isLowercase c then .lower else if isUppercase c then .upper else last

/-- Words of a chunk, where `word` has been read of the first one and `last` is its last case. -/
def wordsOfChunk (last : LastCase) (word : List Char) : List Char → List (List Char)
  | [] => []
  | [c] => [word ++ [c]]
  | c :: next :: rest =>
    if last.read c = .lower && isUppercase next then
      (word ++ [c]) :: wordsOfChunk .none [] (next :: rest)
    else if last = .upper && isUppercase c && isLowercase next then
      word :: wordsOfChunk .none [c] (next :: rest)
    else
      wordsOfChunk (last.read c) (word ++ [c]) (next :: rest)

/-- The runs of alphanumeric characters, where `chunk` has been read of the first one. -/
def chunksAfter (chunk : List Char) : List Char → List (List Char)
  | [] => [chunk]
  | c :: rest =>
    if isAlphanumeric c then chunksAfter (chunk ++ [c]) rest else chunk :: chunksAfter [] rest

/-- The words of an identifier, in order and in their own spelling. -/
def words (s : String) : List (List Char) :=
  (chunksAfter [] s.toList).flatMap (wordsOfChunk .none [])

/-- A word in small letters. A capital sigma takes its final form in last place. -/
def lowerWord : List Char → List Char
  | [] => []
  | [c] => if c = capitalSigma then [finalSigma] else lowerChars c
  | c :: next :: rest => lowerChars c ++ lowerWord (next :: rest)

/-- A word with a capital first letter and small letters after it. -/
def titleWord : List Char → List Char
  | [] => []
  | c :: rest => upperChars c ++ lowerWord rest

/-- Words in small letters, joined by underscores. -/
def snakeCase (s : String) : String :=
  String.ofList (['_'].intercalate ((words s).map lowerWord))

/-- Words joined without separator, each with a capital first letter. -/
def upperCamelCase (s : String) : String :=
  String.ofList ((words s).flatMap titleWord)

/-- Words joined without separator, each but the first with a capital first letter. -/
def lowerCamelCase (s : String) : String :=
  String.ofList <|
    match words s with
    | [] => []
    | first :: rest => lowerWord first ++ rest.flatMap titleWord

end DataModel.Text
