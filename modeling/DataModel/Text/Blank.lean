import DataModel.Text.Span

/-!
# Blank characters

The Unicode property White_Space, which decides what counts as indentation of a block string and
what may stand before a number in a date.
-/

namespace DataModel.Text

/-- The white space characters. -/
def blankSpans : List Span := [
  ⟨0x9, 0xD, 1⟩, ⟨0x20, 0x20, 1⟩, ⟨0x85, 0x85, 1⟩, ⟨0xA0, 0xA0, 1⟩, ⟨0x1680, 0x1680, 1⟩,
  ⟨0x2000, 0x200A, 1⟩, ⟨0x2028, 0x2029, 1⟩, ⟨0x202F, 0x202F, 1⟩, ⟨0x205F, 0x205F, 1⟩,
  ⟨0x3000, 0x3000, 1⟩]

/-- Spaces, tabs and line breaks of every script. -/
def isBlank (c : Char) : Bool :=
  Span.covers blankSpans c

end DataModel.Text
