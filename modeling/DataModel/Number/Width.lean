/-!
# Widths of integers

Which integers fit a machine word. Integers are unbounded in the library; these are the bounds at
which a text or a value is refused or read as something else.
-/

namespace DataModel

/-- Whether an integer fits 64 bits with sign. -/
def fitsInt64 (n : Int) : Bool := -0x8000000000000000 ≤ n && n < 0x8000000000000000

/-- Whether an integer fits 64 bits without sign. -/
def fitsUInt64 (n : Int) : Bool := 0 ≤ n && n < 0x10000000000000000

/-- Whether an integer fits 32 bits without sign. -/
def fitsUInt32 (n : Int) : Bool := 0 ≤ n && n < 0x100000000

end DataModel
