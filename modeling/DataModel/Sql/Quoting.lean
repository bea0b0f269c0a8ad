/-!
# Quoting in SQL

Identifiers stand between backticks and string literals between single quotes, in the dialect of
MySQL. A backtick inside an identifier is doubled. Inside a literal a single quote is doubled and
the backslash, which starts an escape there, is escaped itself, as are line breaks, tabs and the
null character.
-/

namespace DataModel.Sql

/-- How one character stands in an identifier. -/
def escapeInIdentifier (c : Char) : List Char :=
  if c = Char.ofNat 0x60 then [c, c] else [c]

/-- A name between backticks. -/
def quoteIdentifier (name : String) : String :=
  String.ofList
    (Char.ofNat 0x60 :: name.toList.flatMap escapeInIdentifier ++ [Char.ofNat 0x60])

/-- Names between backticks, separated by a comma and a space. -/
def quoteIdentifiers (names : List String) : String :=
  ", ".intercalate (names.map quoteIdentifier)

/-- How one character stands in a string literal. -/
def escapeInLiteral (c : Char) : List Char :=
  if c = '\\' then ['\\', '\\']
  else if c = '\'' then ['\'', '\'']
  else if c = '\n' then ['\\', 'n']
  else if c = '\r' then ['\\', 'r']
  else if c = '\t' then ['\\', 't']
  else if c = Char.ofNat 0 then ['\\', '0']
  else [c]

/-- A text between single quotes. -/
def quoteLiteral (s : String) : String :=
  String.ofList ('\'' :: s.toList.flatMap escapeInLiteral ++ ['\''])

end DataModel.Sql
