import DataModel.Number.Decimal
import Mathlib.Algebra.Order.Field.Power
import Mathlib.Data.Int.Log
import Mathlib.Data.Rat.Floor
import Mathlib.Tactic.FieldSimp
import Mathlib.Tactic.Linarith
import Mathlib.Tactic.NormNum
import Mathlib.Tactic.Positivity
import Mathlib.Tactic.Ring

/-!
# Rounding to binary64 numbers

`Binary64.ofRatio` and `Binary64.ofDecimal` compute on natural numbers. What they compute is said
here about the rational number that is rounded. Lengths are measured in places: a place is the
value of the last bit of the significand of a number.

The values that are rounded to a number form an interval around it, which ends halfway to its
neighbours. Above a power of two the neighbours are a place away, and below it half a place: a value
there belongs to the binade below and is rounded with a smaller exponent, up to the power of two.

## Main results

* `isNearestEven_roundHalfEven`, `Binary64.log2Ratio_eq_log`: the integer arithmetic, in terms of
  nearest integers and logarithms.
* `Binary64.interval_includes_iff`: the rounding interval of a number, in places.
* `Binary64.ofRatio_of_includes`, `Binary64.ofDecimal_of_includes`: **what is in the rounding
  interval of a number is rounded to the number**.
-/

namespace DataModel

/-! ### Powers and nearest integers -/

/-- An integer power, as the quotient of the two natural powers one of which is one. -/
theorem zpow_eq_div (b : ℕ) (hb : b ≠ 0) (l : ℤ) :
    (b : ℚ) ^ l = (b ^ l.toNat : ℕ) / (b ^ (-l).toNat : ℕ) := by
  have hb' : (b : ℚ) ≠ 0 := Nat.cast_ne_zero.mpr hb
  push_cast
  rw [eq_div_iff (by positivity), ← zpow_natCast, ← zpow_natCast, ← zpow_add₀ hb']
  congr 1
  omega

/-- A natural number next to `y`, and the even one of two. -/
def IsNearestEven (y : ℚ) (m : ℕ) : Prop :=
  |y - m| ≤ 1 / 2 ∧ (m % 2 = 1 → |y - m| < 1 / 2)

/-- Of two nearest numbers none is the smaller one: halfway between them only one is even. -/
theorem IsNearestEven.not_lt {y : ℚ} {k m : ℕ} (hk : IsNearestEven y k) (hm : IsNearestEven y m) :
    ¬ k < m := by
  intro hlt
  obtain ⟨-, hhigh⟩ := abs_le.mp hk.1
  obtain ⟨hlow, -⟩ := abs_le.mp hm.1
  have hstep : (k : ℚ) + 1 ≤ m := by exact_mod_cast hlt
  have hnext : m = k + 1 := by
    have hle : (m : ℚ) ≤ (k + 1 : ℕ) := by
      push_cast
      linarith
    have hle : m ≤ k + 1 := Nat.cast_le.mp hle
    omega
  rcases Nat.mod_two_eq_zero_or_one k with heven | hodd
  · have hstrict := (abs_lt.mp (hm.2 (by omega))).1
    linarith
  · have hstrict := (abs_lt.mp (hk.2 hodd)).2
    linarith

/-- There is one nearest number. -/
theorem IsNearestEven.unique {y : ℚ} {k m : ℕ} (hk : IsNearestEven y k) (hm : IsNearestEven y m) :
    k = m :=
  le_antisymm (Nat.not_lt.mp (hm.not_lt hk)) (Nat.not_lt.mp (hk.not_lt hm))

/-- **The number nearest to a quotient** is the one that is computed. -/
theorem isNearestEven_roundHalfEven (n : ℕ) {d : ℕ} (hd : 0 < d) :
    IsNearestEven (n / d) (roundHalfEven n d) := by
  have hd' : (0 : ℚ) < d := Nat.cast_pos.mpr hd
  obtain ⟨k, hk⟩ : ∃ k, n / d = k := ⟨_, rfl⟩
  obtain ⟨r, hr⟩ : ∃ r, n % d = r := ⟨_, rfl⟩
  have hquotient : (n : ℚ) / d = k + r / d := by
    have hdivMod : (n : ℚ) = d * k + r := by
      rw [← hk, ← hr]
      exact_mod_cast (Nat.div_add_mod n d).symm
    rw [hdivMod]
    field_simp
  have hnonneg : (0 : ℚ) ≤ r / d := by positivity
  have hone : (r : ℚ) / d < 1 := (div_lt_one hd').mpr (Nat.cast_lt.mpr (hr ▸ Nat.mod_lt n hd))
  have hhalf : (r : ℚ) / d < 1 / 2 ↔ 2 * r < d := by
    rw [div_lt_div_iff₀ hd' two_pos, one_mul, mul_comm]
    exact_mod_cast Iff.rfl
  have hhalf' : 1 / 2 < (r : ℚ) / d ↔ d < 2 * r := by
    rw [div_lt_div_iff₀ two_pos hd', one_mul, mul_comm]
    exact_mod_cast Iff.rfl
  rw [hquotient, roundHalfEven, hk, hr]
  split
  case isTrue hsmall =>
    have hdistance : |(k : ℚ) + r / d - k| < 1 / 2 :=
      abs_lt.mpr ⟨by linarith, by linarith [hhalf.mpr hsmall]⟩
    exact ⟨hdistance.le, fun _ => hdistance⟩
  split
  case isTrue hlarge =>
    have hdistance : |(k : ℚ) + r / d - (k + 1 : ℕ)| < 1 / 2 := by
      push_cast
      exact abs_lt.mpr ⟨by linarith [hhalf'.mpr hlarge], by linarith⟩
    exact ⟨hdistance.le, fun _ => hdistance⟩
  case isFalse hsmall hlarge =>
    -- halfway both neighbours are as near, and the even one is taken
    have hmiddle : (r : ℚ) / d = 1 / 2 :=
      le_antisymm (not_lt.mp (hhalf'.not.mpr hlarge)) (not_lt.mp (hhalf.not.mpr hsmall))
    rw [hmiddle]
    rcases Nat.mod_two_eq_zero_or_one k with heven | hodd
    · refine ⟨abs_le.mpr ?_, by omega⟩
      rw [heven]
      push_cast
      exact ⟨by linarith, by linarith⟩
    · refine ⟨abs_le.mpr ?_, by omega⟩
      rw [hodd]
      push_cast
      exact ⟨by linarith, by linarith⟩

namespace Binary64

/-! ### Quotients -/

/-- Powers of two are powers. -/
@[simp]
theorem powerOfTwo_eq (n : ℕ) : powerOfTwo n = 2 ^ n := rfl

/-- Powers of ten are powers. -/
@[simp]
theorem powerOfTen_eq (n : ℕ) : powerOfTen n = 10 ^ n := rfl

/-- A quotient by which a power is divided, as a quotient of natural numbers. -/
theorem div_zpow_eq (b : ℕ) (hb : b ≠ 0) (n d : ℕ) (l : ℤ) :
    (n : ℚ) / d / (b : ℚ) ^ l =
      (n * b ^ (-l).toNat : ℕ) / (d * b ^ l.toNat : ℕ) := by
  rw [zpow_eq_div b hb]
  have hb' : (b : ℚ) ≠ 0 := Nat.cast_ne_zero.mpr hb
  push_cast
  field_simp

/-- The logarithms of two numbers leave two candidates for that of their quotient. -/
theorem log_quotient_bounds {n d : ℕ} (hn : n ≠ 0) (hd : d ≠ 0) :
    (n.log2 : ℤ) - d.log2 - 1 ≤ Int.log 2 ((n : ℚ) / d) ∧
      Int.log 2 ((n : ℚ) / d) ≤ n.log2 - d.log2 := by
  have hn' : (0 : ℚ) < n := by positivity
  have hd' : (0 : ℚ) < d := by positivity
  have hnlow : (2 : ℚ) ^ (n.log2 : ℤ) ≤ n := by exact_mod_cast Nat.log2_self_le hn
  have hnhigh : (n : ℚ) < 2 ^ ((n.log2 : ℤ) + 1) := by exact_mod_cast Nat.lt_log2_self
  have hdlow : (2 : ℚ) ^ (d.log2 : ℤ) ≤ d := by exact_mod_cast Nat.log2_self_le hd
  have hdhigh : (d : ℚ) < 2 ^ ((d.log2 : ℤ) + 1) := by exact_mod_cast Nat.lt_log2_self
  constructor
  · rw [← Int.zpow_le_iff_le_log one_lt_two (by positivity), le_div_iff₀ hd', Nat.cast_ofNat]
    calc (2 : ℚ) ^ ((n.log2 : ℤ) - d.log2 - 1) * d
        ≤ 2 ^ ((n.log2 : ℤ) - d.log2 - 1) * 2 ^ ((d.log2 : ℤ) + 1) := by gcongr
      _ = 2 ^ (n.log2 : ℤ) := by
        rw [← zpow_add₀ two_ne_zero]
        congr 1
        omega
      _ ≤ n := hnlow
  · rw [← Int.lt_add_one_iff, ← Int.lt_zpow_iff_log_lt one_lt_two (by positivity),
      div_lt_iff₀ hd', Nat.cast_ofNat]
    calc (n : ℚ) < 2 ^ ((n.log2 : ℤ) + 1) := hnhigh
      _ = 2 ^ ((n.log2 : ℤ) - d.log2 + 1) * 2 ^ (d.log2 : ℤ) := by
        rw [← zpow_add₀ two_ne_zero]
        congr 1
        omega
      _ ≤ 2 ^ ((n.log2 : ℤ) - d.log2 + 1) * d := by gcongr

/-- **The exponent of the greatest power of two** that is at most a quotient is its logarithm. -/
theorem log2Ratio_eq_log {n d : ℕ} (hn : n ≠ 0) (hd : d ≠ 0) :
    log2Ratio n d = Int.log 2 ((n : ℚ) / d) := by
  obtain ⟨hlow, hhigh⟩ := log_quotient_bounds hn hd
  obtain ⟨l, hl⟩ : ∃ l : ℤ, (n.log2 : ℤ) - d.log2 = l := ⟨_, rfl⟩
  have htest : d * powerOfTwo l.toNat ≤ n * powerOfTwo (-l).toNat ↔
      l ≤ Int.log 2 ((n : ℚ) / d) := by
    have hscale := div_zpow_eq 2 two_ne_zero n d l
    have hpow : (0 : ℚ) < (2 : ℕ) ^ l := zpow_pos (by norm_num) l
    rw [← Int.zpow_le_iff_le_log one_lt_two (by positivity), ← one_le_div hpow, hscale,
      one_le_div (by positivity), Nat.cast_le]
    rfl
  rw [hl] at hlow hhigh
  simp only [log2Ratio, hl, htest]
  split <;> omega

/-- **What a quotient is rounded to**: the exponent leaves a significand of 53 bits unless it is the
least one, and the significand is the nearest one. -/
theorem ofRatio_eq {n d m : ℕ} {q : ℤ} (negative : Bool) (hn : n ≠ 0) (hd : d ≠ 0)
    (hq : max (Int.log 2 ((n : ℚ) / d) - 52) (-1074) = q)
    (hm : IsNearestEven ((n : ℚ) / d / 2 ^ q) m) :
    ofRatio negative n d = ⟨negative, min ((q + 1074).toNat * hiddenBit + m) infiniteMagnitude,
      Nat.min_le_right _ _⟩ := by
  have hscale := div_zpow_eq 2 two_ne_zero n d q
  rw [Nat.cast_ofNat] at hscale
  rw [hscale] at hm
  have hround := (isNearestEven_roundHalfEven _ (by positivity)).unique hm
  simp only [ofRatio, if_neg hn, log2Ratio_eq_log hn hd, hq, powerOfTwo_eq, hround]

/-! ### Significand and exponent -/

section Finite

variable {x : Binary64}

/-- The bits of a number are those of its exponent and its significand; the lowest bit of the one
and the highest bit of the other are the same. -/
theorem magnitude_eq (x : Binary64) :
    x.magnitude = (x.exponent + 1074).toNat * hiddenBit + x.significand := by
  have hdivMod := Nat.div_add_mod x.magnitude hiddenBit
  unfold exponent significand
  split
  case isTrue => simp
  case isFalse hnormal =>
    have hpos : 0 < x.magnitude / hiddenBit :=
      Nat.div_pos (Nat.not_lt.mp hnormal) (by decide)
    obtain ⟨e, he⟩ : ∃ e, x.magnitude / hiddenBit = e + 1 := ⟨x.magnitude / hiddenBit - 1, by omega⟩
    rw [he] at hdivMod ⊢
    have hexponent : (((e + 1 : ℕ) : ℤ) - 1075 + 1074).toNat = e := by omega
    rw [hexponent]
    linarith

/-- A significand has at most 53 bits. -/
theorem significand_lt (x : Binary64) : x.significand < 2 * hiddenBit := by
  have hmod : x.magnitude % hiddenBit < hiddenBit := Nat.mod_lt _ (by decide)
  unfold significand
  split <;> omega

/-- No exponent is below the least one. -/
theorem le_exponent (x : Binary64) : -1074 ≤ x.exponent := by
  unfold exponent
  split
  case isTrue => exact Int.le_refl _
  case isFalse hnormal =>
    have hpos : 0 < x.magnitude / hiddenBit :=
      Nat.div_pos (Nat.not_lt.mp hnormal) (by decide)
    omega

/-- The finite numbers are those other than the two infinities. -/
theorem isInfinite_eq_false_iff : x.isInfinite = false ↔ ∀ negative, x ≠ .infinite negative := by
  obtain ⟨negative, magnitude, hle⟩ := x
  simp [isInfinite, infinite]

/-- The exponent of a finite number has an upper bound. -/
theorem exponent_le (hfinite : x.isInfinite = false) : x.exponent ≤ 971 := by
  have hmagnitude : x.magnitude < infiniteMagnitude := by
    have hne : x.magnitude ≠ infiniteMagnitude := by simpa [isInfinite] using hfinite
    have hle := x.magnitude_le
    omega
  have hdiv : x.magnitude / hiddenBit < 2047 :=
    Nat.div_lt_of_lt_mul (hmagnitude.trans_eq (by decide))
  unfold exponent
  split <;> omega

/-- A number above the least exponent has all bits of its significand. -/
theorem hiddenBit_le_significand (h : -1074 < x.exponent) : hiddenBit ≤ x.significand := by
  unfold exponent at h
  unfold significand
  split at h
  case isTrue => omega
  case isFalse hnormal =>
    rw [if_neg hnormal]
    omega

/-- Only the zeros have the significand zero. -/
theorem significand_pos (hx : x.magnitude ≠ 0) : 0 < x.significand := by
  unfold significand
  have : 0 < hiddenBit := by decide
  split <;> omega

/-! ### Rounding intervals -/

/-- The distance from a number to the lower end of its rounding interval, in quarters of a place. -/
def quartersBelow (x : Binary64) : ℕ :=
  if x.magnitude % hiddenBit = 0 && hiddenBit < x.magnitude then 1 else 2

/-- The lower end is closer to a number only where its significand is a power of two. -/
theorem quartersBelow_eq_one_iff :
    x.quartersBelow = 1 ↔ x.significand = hiddenBit ∧ -1074 < x.exponent := by
  have htest : x.quartersBelow = 1 ↔ x.magnitude % hiddenBit = 0 ∧ hiddenBit < x.magnitude := by
    simp [quartersBelow]
  rw [htest]
  unfold significand exponent hiddenBit
  split <;> omega

/-- The lower end is half a place or a quarter below a number. -/
theorem quartersBelow_eq (x : Binary64) : x.quartersBelow = 1 ∨ x.quartersBelow = 2 := by
  unfold quartersBelow
  split
  · exact .inl rfl
  · exact .inr rfl

/-- The values that read back as a number with the interval. -/
def Interval.Includes (i : Interval) (r : ℚ) : Prop :=
  if i.closed then i.low ≤ r * i.den ∧ r * i.den ≤ i.high
  else i.low < r * i.den ∧ r * i.den < i.high

/-- **Which values read back as a number**: those that are less than half a place from it, or less
than a quarter where numbers are denser below, and the ends where the significand is even. -/
theorem interval_includes_iff (hx : x.magnitude ≠ 0) {r : ℚ} :
    x.interval.Includes r ↔
      if x.significand % 2 = 0 then
        (x.significand : ℚ) - x.quartersBelow / 4 ≤ r / 2 ^ x.exponent ∧
          r / 2 ^ x.exponent ≤ x.significand + 1 / 2
      else
        (x.significand : ℚ) - x.quartersBelow / 4 < r / 2 ^ x.exponent ∧
          r / 2 ^ x.exponent < x.significand + 1 / 2 := by
  obtain ⟨q, hq⟩ : ∃ q, x.exponent - 2 = q := ⟨_, rfl⟩
  obtain ⟨u, hu⟩ : ∃ u, r / 2 ^ x.exponent = u := ⟨_, rfl⟩
  obtain ⟨scale, hscale⟩ : ∃ scale, 2 ^ q.toNat = scale := ⟨_, rfl⟩
  obtain ⟨den, hden⟩ : ∃ den, 2 ^ (-q).toNat = den := ⟨_, rfl⟩
  have hscalePos : (0 : ℚ) < scale := by rw [← hscale]; positivity
  have hdenPos : (0 : ℚ) < den := by rw [← hden]; positivity
  -- the interval is given in quarters of a place
  have hquarters : r * den = 4 * u * scale := by
    have hpower := zpow_eq_div 2 two_ne_zero q
    rw [hscale, hden, eq_div_iff hdenPos.ne', Nat.cast_ofNat] at hpower
    have hexponent : (2 : ℚ) ^ x.exponent = 4 * 2 ^ q := by
      rw [show x.exponent = 2 + q by omega, zpow_add₀ two_ne_zero]
      norm_num
    have hne : (2 : ℚ) ^ q ≠ 0 := (zpow_pos two_pos q).ne'
    rw [← hu, ← hpower, hexponent]
    field_simp
  have hsub : ((4 * x.significand - x.quartersBelow : ℕ) : ℚ) =
      4 * x.significand - x.quartersBelow := by
    have hpos := significand_pos hx
    have hbelow := x.quartersBelow_eq
    rw [Nat.cast_sub (by omega)]
    push_cast
    rfl
  have hinterval : x.interval = ⟨(4 * x.significand - x.quartersBelow) * scale,
      4 * x.significand * scale, (4 * x.significand + 2) * scale, den,
      decide (x.significand % 2 = 0)⟩ := by
    subst hq hscale hden
    rfl
  rw [hinterval, hu]
  simp only [Interval.Includes, decide_eq_true_eq, hquarters, Nat.cast_mul, hsub,
    mul_le_mul_iff_of_pos_right hscalePos, mul_lt_mul_iff_of_pos_right hscalePos]
  push_cast
  split
  · constructor <;> rintro ⟨hlow, hhigh⟩ <;> constructor <;> linarith
  · constructor <;> rintro ⟨hlow, hhigh⟩ <;> constructor <;> linarith

/-- How far a value that reads back as a number is from it: at most half a place, and less where the
significand is odd. -/
theorem bounds_of_includes (hx : x.magnitude ≠ 0) {r : ℚ} (h : x.interval.Includes r) :
    (x.significand : ℚ) - x.quartersBelow / 4 ≤ r / 2 ^ x.exponent ∧
      r / 2 ^ x.exponent ≤ x.significand + 1 / 2 ∧
      (x.significand % 2 = 1 → (x.significand : ℚ) - x.quartersBelow / 4 < r / 2 ^ x.exponent ∧
        r / 2 ^ x.exponent < x.significand + 1 / 2) := by
  rw [interval_includes_iff hx] at h
  split at h
  case isTrue heven => exact ⟨h.1, h.2, by omega⟩
  case isFalse hodd => exact ⟨h.1.le, h.2.le, fun _ => h⟩

/-- Half a place is the most that the lower end is away. -/
theorem quartersBelow_le (x : Binary64) : (x.quartersBelow : ℚ) ≤ 2 := by
  have hbelow := x.quartersBelow_eq
  exact_mod_cast (by omega : x.quartersBelow ≤ 2)

/-- What reads back as a number other than zero is positive. -/
theorem pos_of_includes (hx : x.magnitude ≠ 0) {r : ℚ} (h : x.interval.Includes r) : 0 < r := by
  obtain ⟨hlow, -⟩ := bounds_of_includes hx h
  have hsignificand : (1 : ℚ) ≤ x.significand := by exact_mod_cast significand_pos hx
  have hbelow := x.quartersBelow_le
  have hscaled : 0 < r / 2 ^ x.exponent := by linarith
  exact (div_pos_iff_of_pos_right (zpow_pos two_pos x.exponent)).mp hscaled

/-- The logarithm of a value, by comparison of the value in places with powers of two. -/
theorem log_lt_iff {r : ℚ} (hr : 0 < r) (q : ℤ) (k : ℕ) :
    Int.log 2 r < q + k ↔ r / 2 ^ q < (2 ^ k : ℕ) := by
  have hpow : (0 : ℚ) < 2 ^ q := zpow_pos two_pos q
  rw [← Int.lt_zpow_iff_log_lt one_lt_two hr, div_lt_iff₀ hpow, Nat.cast_ofNat,
    zpow_add₀ two_ne_zero, mul_comm, zpow_natCast]
  push_cast
  rfl

/-- The hidden bit is the highest of 53. -/
theorem hiddenBit_eq : hiddenBit = 2 ^ 52 := by decide

/-- What reads back as a number is below the power of two that follows on it. -/
theorem log_lt_of_includes (hx : x.magnitude ≠ 0) {r : ℚ} (h : x.interval.Includes r) :
    Int.log 2 r < x.exponent + 53 := by
  obtain ⟨-, hhigh, -⟩ := bounds_of_includes hx h
  have hlt : (x.significand : ℚ) + 1 ≤ 2 * hiddenBit := by exact_mod_cast x.significand_lt
  refine (log_lt_iff (pos_of_includes hx h) x.exponent 53).mpr ?_
  norm_num [hiddenBit] at hlt ⊢
  linarith

/-- A value in the binade of the number is rounded with the exponent of the number to its
significand, and so is every value at the least exponent. -/
theorem rounding_in_binade (hx : x.magnitude ≠ 0) {r : ℚ} (h : x.interval.Includes r)
    (hsame : (hiddenBit : ℚ) ≤ r / 2 ^ x.exponent ∨ x.exponent = -1074) :
    max (Int.log 2 r - 52) (-1074) = x.exponent ∧
      IsNearestEven (r / 2 ^ x.exponent) x.significand := by
  have htop := log_lt_of_includes hx h
  have hbelow := x.quartersBelow_le
  obtain ⟨hlow, hhigh, hodd⟩ := bounds_of_includes hx h
  refine ⟨?_, abs_le.mpr ⟨by linarith, by linarith⟩, fun hm => ?_⟩
  · rcases hsame with hbinade | hleast
    · rw [hiddenBit_eq, ← not_lt, ← log_lt_iff (pos_of_includes hx h)] at hbinade
      have hle := x.le_exponent
      omega
    · omega
  · obtain ⟨hlow, hhigh⟩ := hodd hm
    exact abs_lt.mpr ⟨by linarith, by linarith⟩

/-- A value in the binade below the number is rounded up to the number, which is a power of two. -/
theorem rounding_below_binade (hx : x.magnitude ≠ 0) {r : ℚ} (h : x.interval.Includes r)
    (hbinade : r / 2 ^ x.exponent < hiddenBit) (hexponent : -1074 < x.exponent) :
    x.significand = hiddenBit ∧ max (Int.log 2 r - 52) (-1074) = x.exponent - 1 ∧
      IsNearestEven (r / 2 ^ (x.exponent - 1)) (2 * hiddenBit) := by
  have hr := pos_of_includes hx h
  obtain ⟨hlow, -, -⟩ := bounds_of_includes hx h
  have hpower : x.significand = hiddenBit := by
    have hfull := hiddenBit_le_significand hexponent
    have hbelow := x.quartersBelow_le
    have hless : (x.significand : ℚ) < (hiddenBit + 1 : ℕ) := by
      push_cast
      linarith
    have hless : x.significand < hiddenBit + 1 := Nat.cast_lt.mp hless
    omega
  rw [quartersBelow_eq_one_iff.mpr ⟨hpower, hexponent⟩, hpower] at hlow
  have hdouble : r / 2 ^ (x.exponent - 1) = 2 * (r / 2 ^ x.exponent) := by
    rw [zpow_sub_one₀ two_ne_zero]
    field_simp
  refine ⟨hpower, ?_, ?_⟩
  · have habove := (log_lt_iff hr x.exponent 52).mpr (hiddenBit_eq ▸ hbinade)
    have hnot : ¬ Int.log 2 r < x.exponent + 51 := fun hless => by
      have hless := (log_lt_iff hr x.exponent 51).mp hless
      norm_num [hiddenBit] at hlow hless
      linarith
    omega
  · rw [hdouble]
    refine ⟨abs_le.mpr ?_, fun hodd => absurd hodd (by decide)⟩
    push_cast at hlow ⊢
    exact ⟨by linarith, by linarith⟩

/-- **A quotient in the rounding interval of a number is rounded to that number.** -/
theorem ofRatio_of_includes (hx : x.magnitude ≠ 0) {n d : ℕ} (hd : d ≠ 0)
    (h : x.interval.Includes ((n : ℚ) / d)) : ofRatio x.negative n d = x := by
  have hn : n ≠ 0 := by
    rintro rfl
    simpa using pos_of_includes hx h
  have hmagnitude := x.magnitude_eq
  have heq : ∀ {magnitude}, magnitude = x.magnitude →
      (⟨x.negative, min magnitude infiniteMagnitude, Nat.min_le_right _ _⟩ : Binary64) = x := by
    rintro _ rfl
    simp [Nat.min_eq_left x.magnitude_le]
  by_cases hsame : (hiddenBit : ℚ) ≤ n / d / 2 ^ x.exponent ∨ x.exponent = -1074
  · obtain ⟨hexponent, hnearest⟩ := rounding_in_binade hx h hsame
    rw [ofRatio_eq x.negative hn hd hexponent hnearest]
    exact heq hmagnitude.symm
  · obtain ⟨hbinade, hleast⟩ := not_or.mp hsame
    have hle := x.le_exponent
    obtain ⟨hpower, hexponent, hnearest⟩ :=
      rounding_below_binade hx h (not_le.mp hbinade) (by omega)
    rw [ofRatio_eq x.negative hn hd hexponent hnearest]
    refine heq ?_
    rw [hmagnitude, hpower,
      show (x.exponent + 1074).toNat = (x.exponent - 1 + 1074).toNat + 1 by omega]
    ring

/-! ### Decimals -/

/-- The number of digits, by comparison with powers of ten. -/
theorem decimalLength_le_iff {n k : ℕ} : decimalLength n ≤ k ↔ n < 10 ^ k := by
  unfold decimalLength
  split
  case isTrue hn => simp [hn]
  case isFalse hn =>
    rcases Nat.eq_zero_or_pos k with rfl | hk
    · have hlength := Nat.length_toDigits_pos (b := 10) (n := n)
      simp only [pow_zero]
      omega
    · exact Nat.length_toDigits_le_iff (by decide) hk

/-- The size of a decimal, by comparison with powers of ten. -/
theorem decimal_lt_zpow_iff {c : ℕ} (hc : c ≠ 0) {k s : ℤ} :
    (c : ℚ) * 10 ^ k < 10 ^ s ↔ decimalLength c + k ≤ s := by
  have hk : (0 : ℚ) < 10 ^ k := zpow_pos (by norm_num) k
  rw [← lt_div_iff₀ hk, ← zpow_sub₀ (by norm_num)]
  rcases lt_or_ge (s - k) 0 with hneg | hnonneg
  · have hone : (1 : ℚ) ≤ c := by exact_mod_cast Nat.one_le_iff_ne_zero.mpr hc
    have hpower : (10 : ℚ) ^ (s - k) < 1 := zpow_lt_one_of_neg₀ (by norm_num) hneg
    constructor
    · intro hlt
      linarith
    · intro hle
      omega
  · obtain ⟨j, hj⟩ := Int.eq_ofNat_of_zero_le hnonneg
    rw [hj, zpow_natCast]
    have hlength := decimalLength_le_iff (n := c) (k := j)
    constructor
    · intro hlt
      have := hlength.mpr (by exact_mod_cast hlt)
      omega
    · intro hle
      exact_mod_cast hlength.mp (by omega)

/-- What reads back as a finite number other than zero lies within the powers of ten that the range
of the format is compared with. -/
theorem range_of_includes (hfinite : x.isInfinite = false) (hx : x.magnitude ≠ 0) {r : ℚ}
    (h : x.interval.Includes r) : (10 : ℚ) ^ (-331 : ℤ) ≤ r ∧ r < 10 ^ (310 : ℤ) := by
  have hpow : (0 : ℚ) < 2 ^ x.exponent := zpow_pos two_pos x.exponent
  obtain ⟨hlow, hhigh, -⟩ := bounds_of_includes hx h
  rw [le_div_iff₀ hpow] at hlow
  rw [div_le_iff₀ hpow] at hhigh
  have hbelow := x.quartersBelow_le
  constructor
  · have hone : (1 : ℚ) ≤ x.significand := by exact_mod_cast significand_pos hx
    have hleast : (2 : ℚ) ^ (1075 : ℤ) ≤ 10 ^ (331 : ℤ) := by
      exact_mod_cast (by decide +kernel : 2 ^ 1075 ≤ 10 ^ 331)
    calc (10 : ℚ) ^ (-331 : ℤ) ≤ 2 ^ (-1075 : ℤ) := by
          rw [zpow_neg, zpow_neg]
          exact inv_anti₀ (zpow_pos two_pos _) hleast
      _ ≤ 2 ^ (x.exponent - 1) := by
        have hle := x.le_exponent
        exact zpow_le_zpow_right₀ one_le_two (by omega)
      _ = 1 / 2 * 2 ^ x.exponent := by
        rw [zpow_sub_one₀ two_ne_zero, one_div, mul_comm]
      _ ≤ (x.significand - x.quartersBelow / 4) * 2 ^ x.exponent := by
        gcongr
        linarith
      _ ≤ r := hlow
  · have hlt : (x.significand : ℚ) + 1 ≤ 2 * hiddenBit := by exact_mod_cast x.significand_lt
    calc r ≤ (x.significand + 1 / 2) * 2 ^ x.exponent := hhigh
      _ ≤ (2 * hiddenBit) * 2 ^ x.exponent := by
        gcongr
        linarith
      _ ≤ (2 * hiddenBit) * 2 ^ (971 : ℤ) := by
        gcongr
        · norm_num
        · exact exponent_le hfinite
      _ < 10 ^ (310 : ℤ) := by
        exact_mod_cast (by decide +kernel : 2 * hiddenBit * 2 ^ 971 < 10 ^ 310)

/-- **A decimal in the rounding interval of a number is rounded to that number.** -/
theorem ofDecimal_of_includes (hfinite : x.isInfinite = false) (hx : x.magnitude ≠ 0) {c : ℕ}
    {k : ℤ} (h : x.interval.Includes ((c : ℚ) * 10 ^ k)) : ofDecimal x.negative c k = x := by
  have hc : c ≠ 0 := by
    rintro rfl
    simpa using pos_of_includes hx h
  obtain ⟨hlow, hhigh⟩ := range_of_includes hfinite hx h
  rw [← not_lt, decimal_lt_zpow_iff hc] at hlow
  rw [decimal_lt_zpow_iff hc] at hhigh
  have hsmall : ¬ (decimalLength c : ℤ) + k < -330 := by omega
  have hlarge : ¬ (310 : ℤ) < decimalLength c + k := by omega
  have hquotient : (c : ℚ) * 10 ^ k =
      (c * powerOfTen k.toNat : ℕ) / (powerOfTen (-k).toNat : ℕ) := by
    have hpower := zpow_eq_div 10 (by decide) k
    rw [Nat.cast_ofNat] at hpower
    rw [hpower, powerOfTen_eq, powerOfTen_eq, Nat.cast_mul, mul_div_assoc]
  rw [hquotient] at h
  simp only [ofDecimal, hc, decide_false, Bool.false_or, decide_eq_true_eq, if_neg hsmall,
    if_neg hlarge]
  exact ofRatio_of_includes hx (by simp) h

end Finite

end Binary64

end DataModel
