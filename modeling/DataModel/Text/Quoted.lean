import DataModel.Text.Printable

/-!
# Quoted text in messages

A message shows a text between double quotes so that its extent and every invisible character can
be seen: quotes and backslashes are escaped, line breaks and tabs have short forms, and any other
character that is not printable is written as its code point in hexadecimal between braces.
-/

namespace DataModel.Text

/-- Hexadecimal digits of a number, without leading zeros. -/
def hexDigits (n : Nat) : List Char :=
  Nat.toDigits 16 n

/-- How one character is written between double quotes. -/
def escapeForDisplay (c : Char) : List Char :=
  if c = '"' then ['\\', '"']
  else if c = '\\' then ['\\', '\\']
  else if c = '\n' then ['\\', 'n']
  else if c = '\r' then ['\\', 'r']
  else if c = '\t' then ['\\', 't']
  else if c = Char.ofNat 0 then ['\\', '0']
  else if isPrintable c then [c]
  else ['\\', 'u', '\x7b'] ++ hexDigits c.toNat ++ ['\x7d']

/-- The text between double quotes, with every character visible. -/
def quoted (s : String) : String :=
  String.ofList ('"' :: s.toList.flatMap escapeForDisplay ++ ['"'])

end DataModel.Text
