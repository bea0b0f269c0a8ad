import DataModel.Number.Binary64

/-!
# Decimal text of numbers

A finite number is written with the fewest decimal digits that read back as the same number; of
the decimals with that many digits the nearest one is taken. `Binary64.shortest` finds the digits:
it tries the decimal grids with one digit, two digits and so on, and on each grid the two
neighbours of the value. All comparisons are exact.

Where the digits are placed is the matter of the two layouts. `Binary64.plainText` never uses an
exponent and leaves an integral value without a point. `Binary64.jsonText` marks a number as
fractional by a point and turns to an exponent outside `10⁻⁵ ≤ |x| < 10¹⁶`.
-/

namespace DataModel

/-- Which neighbour is taken when a value lies halfway between two decimals. -/
inductive TieRule where
  /-- The one with the even last digit. -/
  | toEven
  /-- The one farther from zero. -/
  | away
  deriving Repr, DecidableEq

/-- A decimal significand and the position of the point: `0.d₁d₂… * 10 ^ point`. The digits have
no trailing zeros. -/
structure DecimalDigits where
  digits : List Char
  point : Int
  deriving Repr, DecidableEq

namespace Binary64

/-- The rounding interval of a finite number: its value is `mid / den`, and exactly the reals
between `low / den` and `high / den` read back as the number, the ends included when `closed`. -/
structure Interval where
  low : Nat
  mid : Nat
  high : Nat
  den : Nat
  closed : Bool

/-- The rounding interval. Below a power of two the neighbours are twice as dense, so the lower end
is closer there. -/
def interval (x : Binary64) : Interval :=
  let m := x.significand
  let q := x.exponent - 2
  let scale := powerOfTwo q.toNat
  let below := if x.magnitude % hiddenBit = 0 && hiddenBit < x.magnitude then 1 else 2
  { low := (4 * m - below) * scale
    mid := 4 * m * scale
    high := (4 * m + 2) * scale
    den := powerOfTwo (-q).toNat
    closed := m % 2 = 0 }

/-- Whether the decimal `c * 10 ^ k` reads back as a number with this interval. -/
def Interval.contains (i : Interval) (c : Nat) (k : Int) : Bool :=
  let value := c * powerOfTen k.toNat * i.den
  let shift := powerOfTen (-k).toNat
  if i.closed then i.low * shift ≤ value && value ≤ i.high * shift
  else i.low * shift < value && value < i.high * shift

/-- The neighbour of the value on the grid of step `10 ^ k` that reads back, the nearer of two. -/
def Interval.onGrid (i : Interval) (tie : TieRule) (k : Int) : Option Nat :=
  let n := i.mid * powerOfTen (-k).toNat
  let d := i.den * powerOfTen k.toNat
  let c := n / d
  let r := n % d
  let preferLower : Bool :=
    2 * r < d || (2 * r = d && (match tie with | .toEven => c % 2 = 0 | .away => false))
  match i.contains c k, i.contains (c + 1) k with
  | true, true => some (if preferLower then c else c + 1)
  | true, false => some c
  | false, true => some (c + 1)
  | false, false => none

/-- The first grid with a hit, from the step `10 ^ k` downwards through `fuel` further steps. -/
def Interval.search (i : Interval) (tie : TieRule) : Nat → Int → Nat × Int
  | 0, k => ((i.mid * powerOfTen (-k).toNat) / (i.den * powerOfTen k.toNat), k)
  | fuel + 1, k =>
    match i.onGrid tie k with
    | some c => (c, k)
    | none => i.search tie fuel (k - 1)

/-- The least `e` with `mid / den < 10 ^ e`, for the values of finite numbers. -/
def Interval.decade (i : Interval) : Int :=
  (decimalLength (i.mid * powerOfTen 400 / i.den) : Int) - 400

/-- The fewest digits that read back as the absolute value of a finite number. Seventeen always
suffice. -/
def shortest (tie : TieRule) (x : Binary64) : DecimalDigits :=
  if x.magnitude = 0 then ⟨['0'], 1⟩
  else
    let i := x.interval
    let (c, k) := i.search tie 17 (i.decade - 1)
    let text := Nat.toDigits 10 c
    ⟨(text.reverse.dropWhile (· = '0')).reverse, text.length + k⟩

end Binary64

/-- Digits placed around the point, with as many zeros as that takes; the fraction is empty for an
integral value. -/
def DecimalDigits.positional (d : DecimalDigits) : List Char × List Char :=
  if d.point ≤ 0 then (['0'], List.replicate (-d.point).toNat '0' ++ d.digits)
  else
    let p := d.point.toNat
    (d.digits.take p ++ List.replicate (p - d.digits.length) '0', d.digits.drop p)

namespace Binary64

/-- Sign of a written number. -/
def signText (x : Binary64) : List Char :=
  if x.negative then ['-'] else []

/-- The number without exponent; an integral value has no point. -/
def plainText (x : Binary64) : String :=
  String.ofList <| x.signText ++
    if x.isInfinite then ['i', 'n', 'f']
    else
      let (whole, fraction) := (x.shortest .away).positional
      if fraction.isEmpty then whole else whole ++ '.' :: fraction

/-- The number as JSON writes it: at least one digit after the point in positional notation, and an
exponent with sign where the value is below `10⁻⁵` or not below `10¹⁶`. An infinity has no number
in JSON and is `null`. -/
def jsonText (x : Binary64) : String :=
  if x.isInfinite then "null"
  else
    let d := x.shortest .toEven
    String.ofList <| x.signText ++
      if -5 < d.point && d.point ≤ 16 then
        let (whole, fraction) := d.positional
        whole ++ '.' :: (if fraction.isEmpty then ['0'] else fraction)
      else
        let e := d.point - 1
        d.digits.take 1 ++ (if d.digits.length ≤ 1 then [] else '.' :: d.digits.drop 1) ++
          'e' :: (if e < 0 then '-' else '+') :: Nat.toDigits 10 e.natAbs

end Binary64

end DataModel
