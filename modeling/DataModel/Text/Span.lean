/-!
# Sets of characters given by spans

A Unicode property is a finite union of arithmetic progressions of code points. `Span` is one
such progression and `Span.covers` the membership test that the property tables of the other
`Text` modules share. A step of two lists every other code point, which is how the standard
interleaves capital and small letters.
-/

namespace DataModel.Text

/-- The code points `first, first + step, …` up to `last`. -/
structure Span where
  first : Nat
  last : Nat
  step : Nat
  deriving Repr, DecidableEq

namespace Span

/-- Whether the code point `n` belongs to the progression. -/
def contains (s : Span) (n : Nat) : Bool :=
  s.first ≤ n && n ≤ s.last && (n - s.first) % s.step == 0

/-- Whether some span of the table has the character. -/
def covers (table : List Span) (c : Char) : Bool :=
  table.any (·.contains c.toNat)

end Span

end DataModel.Text
