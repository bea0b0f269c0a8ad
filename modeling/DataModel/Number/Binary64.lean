/-!
# Binary64 numbers

The double precision numbers of IEEE 754 without NaN, which no literal and no stored value of
this library can denote. A document that is put together by hand could hold a NaN, as a default that
is no number; such documents are left out. A number is a sign and the 63 bits below it read as one
natural number: exponent and fraction together grow with the absolute value, so the order of the
magnitudes is the order of the absolute values and infinity is the greatest magnitude.

All arithmetic is exact arithmetic on `Nat`. `ofRatio` rounds a quotient to the nearest number,
halfway cases to the even one, and everything that reads a number from text goes through it.
-/

namespace DataModel

/-- The magnitude of infinity: exponent bits all one, fraction zero. -/
def infiniteMagnitude : Nat := 0x7FF0000000000000

/-- The bit above the fraction, which the significand of a normal number has. -/
def hiddenBit : Nat := 0x10000000000000

/-- A power of two. -/
def powerOfTwo (n : Nat) : Nat := Nat.pow 2 n

/-- A power of ten. -/
def powerOfTen (n : Nat) : Nat := Nat.pow 10 n

/-- A double precision number that is not NaN. -/
structure Binary64 where
  negative : Bool
  magnitude : Nat
  magnitude_le : magnitude ≤ infiniteMagnitude
  deriving DecidableEq

/-- The natural number nearest to `n / d`, halfway cases to the even one. -/
def roundHalfEven (n d : Nat) : Nat :=
  if 2 * (n % d) < d then n / d
  else if d < 2 * (n % d) then n / d + 1
  else n / d + n / d % 2

namespace Binary64

/-- Zero with the given sign. -/
def zero (negative : Bool) : Binary64 := ⟨negative, 0, Nat.zero_le _⟩

/-- Infinity with the given sign. -/
def infinite (negative : Bool) : Binary64 := ⟨negative, infiniteMagnitude, Nat.le_refl _⟩

/-- Whether the number is one of the two infinities. -/
def isInfinite (x : Binary64) : Bool := x.magnitude == infiniteMagnitude

/-- The integer `m` in the absolute value `m * 2 ^ q` of a finite number. -/
def significand (x : Binary64) : Nat :=
  if x.magnitude < hiddenBit then x.magnitude else hiddenBit + x.magnitude % hiddenBit

/-- The exponent `q` in the absolute value `m * 2 ^ q` of a finite number. -/
def exponent (x : Binary64) : Int :=
  if x.magnitude < hiddenBit then -1074 else (x.magnitude / hiddenBit : Nat) - 1075

/-- Rank in the order of the numbers, in which the two zeros stand together. -/
def rank (x : Binary64) : Int :=
  if x.negative then -x.magnitude else x.magnitude

/-- The exponent of the greatest power of two that is at most `n / d`. -/
def log2Ratio (n d : Nat) : Int :=
  let l : Int := n.log2 - d.log2
  if d * powerOfTwo l.toNat ≤ n * powerOfTwo (-l).toNat then l else l - 1

/-- The number nearest to `n / d`, halfway cases to the even significand. Beyond the greatest
finite number this is infinity. -/
def ofRatio (negative : Bool) (n d : Nat) : Binary64 :=
  if n = 0 then zero negative
  else
    let q := max (log2Ratio n d - 52) (-1074)
    let m := roundHalfEven (n * powerOfTwo (-q).toNat) (d * powerOfTwo q.toNat)
    ⟨negative, min ((q + 1074).toNat * hiddenBit + m) infiniteMagnitude, Nat.min_le_right _ _⟩

/-- The number of decimal digits of a natural number; zero has none. -/
def decimalLength (n : Nat) : Nat :=
  if n = 0 then 0 else (Nat.toDigits 10 n).length

/-- The number nearest to `digits * 10 ^ exponent`. Exponents beyond the range of the format are
decided by size alone, so that no power of ten larger than the format needs is computed. -/
def ofDecimal (negative : Bool) (digits : Nat) (exponent : Int) : Binary64 :=
  let size : Int := decimalLength digits + exponent
  if digits = 0 || size < -330 then zero negative
  else if 310 < size then infinite negative
  else ofRatio negative (digits * powerOfTen exponent.toNat) (powerOfTen (-exponent).toNat)

/-- The number nearest to an integer. -/
def ofInt (n : Int) : Binary64 :=
  ofRatio (n < 0) n.natAbs 1

end Binary64

end DataModel
