import DataModel.Proofs.Json.RoundTrip
import DataModel.Proofs.Number.Rounding
import Mathlib.Data.List.TakeWhile

/-!
# Decimal text that reads back

`Binary64.shortest` tries decimal grids from coarse to fine and takes the first one with a point in
the rounding interval of the number. On the grid of seventeen digits there always is one: its step is
less than the place of the last bit, and less than half of it where the lower end of the interval is
close. So what is found reads back as the number, and the layouts only move the point.

## Main results

* `Binary64.shortest_includes`: the digits of a finite number other than zero read back as it.
* `DecimalDigits.value_positional`: digits placed around the point have the same value.
* `Binary64.ofDecimal_positional`: **the digits of a finite number around the point read back as the
  number.**
-/

namespace DataModel

open Json (natOfDigits)

/-! ### Digits and zeros -/

/-- Digits one after the other. -/
theorem natOfDigits_append (ds es : List Char) :
    natOfDigits (ds ++ es) = natOfDigits ds * 10 ^ es.length + natOfDigits es := by
  have hfold : ∀ ds, natOfDigits ds = Nat.ofDigitChars 10 ds 0 := fun ds => by
    simp [natOfDigits, Nat.ofDigitChars, Nat.mul_comm]
  simp only [hfold, Nat.ofDigitChars_append]
  rw [Nat.ofDigitChars_eq_ofDigitChars_zero]
  ring

/-- Zeros have the value zero. -/
theorem natOfDigits_zeros (n : ℕ) : natOfDigits (List.replicate n '0') = 0 := by
  induction n with
  | zero => rfl
  | succ n ih => rw [List.replicate_succ', natOfDigits_append, ih]; rfl

/-- A text without the zeros at its end, and those zeros. -/
theorem eq_strip_append_zeros (ds : List Char) :
    ∃ n, ds = (ds.reverse.dropWhile (· = '0')).reverse ++ List.replicate n '0' := by
  refine ⟨(ds.reverse.takeWhile (· = '0')).length, ?_⟩
  have hzeros : ds.reverse.takeWhile (· = '0') =
      List.replicate (ds.reverse.takeWhile (· = '0')).length '0' :=
    List.eq_replicate_iff.mpr ⟨rfl, fun c hc => by simpa using List.mem_takeWhile_imp hc⟩
  have hsplit := congrArg List.reverse (List.takeWhile_append_dropWhile (p := (· = '0'))
    (l := ds.reverse))
  rw [List.reverse_append, List.reverse_reverse, hzeros, List.reverse_replicate] at hsplit
  exact hsplit.symm

namespace DecimalDigits

/-- The value of digits with a point. -/
def value (d : DecimalDigits) : ℚ :=
  natOfDigits d.digits * 10 ^ (d.point - d.digits.length)

/-- **Digits placed around the point** have the value of the digits. -/
theorem value_positional (d : DecimalDigits) :
    (natOfDigits (d.positional.1 ++ d.positional.2) : ℚ) * 10 ^ (-(d.positional.2.length : ℤ)) =
      d.value := by
  unfold positional value
  split
  case isTrue hpoint =>
    have hdigits : natOfDigits (['0'] ++ (List.replicate (-d.point).toNat '0' ++ d.digits)) =
        natOfDigits d.digits := by
      rw [natOfDigits_append, natOfDigits_append, natOfDigits_zeros,
        show natOfDigits ['0'] = 0 from rfl]
      ring
    simp only [hdigits, List.length_append, List.length_replicate]
    congr 2
    omega
  case isFalse hpoint =>
    obtain ⟨p, hp⟩ : ∃ p, d.point.toNat = p := ⟨_, rfl⟩
    simp only [hp]
    rcases le_total d.digits.length p with hlong | hshort
    · rw [List.take_of_length_le hlong, List.drop_eq_nil_of_le hlong, List.append_nil,
        natOfDigits_append, natOfDigits_zeros, List.length_replicate]
      have hexponent : d.point - (d.digits.length : ℤ) = (p - d.digits.length : ℕ) := by omega
      rw [hexponent, zpow_natCast]
      simp
    · rw [Nat.sub_eq_zero_of_le hshort, List.replicate_zero, List.append_nil,
        List.take_append_drop, List.length_drop]
      congr 2
      omega

/-- There are digits before the point. -/
theorem positional_fst_ne_nil (d : DecimalDigits) : d.positional.1 ≠ [] := by
  unfold positional
  split
  · simp
  · cases hdigits : d.digits <;> simp <;> omega

/-- Placing digits around the point adds no characters but digits. -/
theorem isDigit_positional {d : DecimalDigits} (hd : ∀ c ∈ d.digits, c.isDigit) :
    (∀ c ∈ d.positional.1, c.isDigit) ∧ ∀ c ∈ d.positional.2, c.isDigit := by
  have hzeros : ∀ n, ∀ c ∈ List.replicate n '0', c.isDigit := by
    intro n c hc
    obtain rfl := List.eq_of_mem_replicate hc
    rfl
  unfold positional
  split
  · exact ⟨by simp, List.forall_mem_append.mpr ⟨hzeros _, hd⟩⟩
  · exact ⟨List.forall_mem_append.mpr ⟨fun c hc => hd c (List.mem_of_mem_take hc), hzeros _⟩,
      fun c hc => hd c (List.mem_of_mem_drop hc)⟩

/-- Leaving out zeros at the end of a number does not change its value. -/
theorem value_strip (c : ℕ) (k : ℤ) :
    value ⟨((Nat.toDigits 10 c).reverse.dropWhile (· = '0')).reverse,
      (Nat.toDigits 10 c).length + k⟩ = c * 10 ^ k := by
  obtain ⟨n, hn⟩ := eq_strip_append_zeros (Nat.toDigits 10 c)
  obtain ⟨ds, hds⟩ : ∃ ds, ((Nat.toDigits 10 c).reverse.dropWhile (· = '0')).reverse = ds :=
    ⟨_, rfl⟩
  rw [hds] at hn ⊢
  have hlength : (Nat.toDigits 10 c).length = ds.length + n := by simp [hn]
  have hdigits : c = natOfDigits ds * 10 ^ n := by
    rw [← Json.natOfDigits_toDigits c, hn, natOfDigits_append, natOfDigits_zeros,
      List.length_replicate, Nat.add_zero]
  have hexponent : ((ds.length + n : ℕ) : ℤ) + k - ds.length = n + k := by omega
  rw [value, hlength, hexponent, zpow_add₀ (by norm_num), zpow_natCast, ← mul_assoc]
  conv_rhs => rw [hdigits]
  push_cast
  rfl

end DecimalDigits

namespace Binary64

variable {x : Binary64}

/-! ### Grids -/

/-- Whether a decimal is in an interval. -/
theorem Interval.contains_iff {i : Interval} {c : ℕ} {k : ℤ} :
    i.contains c k = true ↔ i.Includes ((c : ℚ) * 10 ^ k) := by
  have hpower : (10 : ℚ) ^ k = (powerOfTen k.toNat : ℕ) / (powerOfTen (-k).toNat : ℕ) :=
    zpow_eq_div 10 (by decide) k
  have hshift : (0 : ℚ) < powerOfTen (-k).toNat := by simp
  have hvalue : (c : ℚ) * 10 ^ k * i.den =
      (c * powerOfTen k.toNat * i.den : ℕ) / (powerOfTen (-k).toNat : ℕ) := by
    rw [hpower]
    push_cast
    ring
  simp only [Interval.contains, Interval.Includes, hvalue, le_div_iff₀ hshift, div_le_iff₀ hshift,
    lt_div_iff₀ hshift, div_lt_iff₀ hshift]
  cases i.closed
  · simp only [Bool.false_eq_true, if_false, Bool.and_eq_true, decide_eq_true_eq]
    norm_cast
  · simp only [if_true, Bool.and_eq_true, decide_eq_true_eq]
    norm_cast

/-- The greatest point of the grid of step `10 ^ k` that is not above the value. -/
def Interval.floorOn (i : Interval) (k : ℤ) : ℕ :=
  i.mid * powerOfTen (-k).toNat / (i.den * powerOfTen k.toNat)

/-- **What a grid gives**: a neighbour of the value that is in the interval, if one of the two is. -/
theorem Interval.onGrid_spec (i : Interval) (tie : TieRule) (k : ℤ) :
    (∀ c ∈ i.onGrid tie k, i.contains c k = true) ∧
      ((i.onGrid tie k).isSome ↔
        i.contains (i.floorOn k) k = true ∨ i.contains (i.floorOn k + 1) k = true) := by
  have hfloor : i.mid * powerOfTen (-k).toNat / (i.den * powerOfTen k.toNat) = i.floorOn k := rfl
  simp only [onGrid, hfloor]
  cases hlower : i.contains (i.floorOn k) k with
  | false => cases hupper : i.contains (i.floorOn k + 1) k <;> simp [hupper]
  | true =>
    cases hupper : i.contains (i.floorOn k + 1) k with
    | false => simp [hlower]
    | true =>
      -- whichever of the two is nearer is in the interval
      have hboth (p : Prop) [Decidable p] :
          i.contains (if p then i.floorOn k else i.floorOn k + 1) k = true := by
        split
        · exact hlower
        · exact hupper
      refine ⟨fun c hc => ?_, by simp⟩
      obtain rfl := Option.some.inj hc
      exact hboth _

/-- The search gives a decimal in the interval if one of the grids that it tries has one. -/
theorem Interval.contains_search {i : Interval} {tie : TieRule} {fuel : ℕ} {k : ℤ} {j : ℕ}
    (hj : j < fuel) (h : (i.onGrid tie (k - j)).isSome) :
    i.contains (i.search tie fuel k).1 (i.search tie fuel k).2 = true := by
  induction fuel generalizing k j with
  | zero => omega
  | succ fuel ih =>
    cases hgrid : i.onGrid tie k with
    | some c =>
      simp only [Interval.search, hgrid]
      exact (i.onGrid_spec tie k).1 c hgrid
    | none =>
      obtain ⟨j, rfl⟩ : ∃ n, j = n + 1 := ⟨j - 1, by
        have hne : j ≠ 0 := by
          rintro rfl
          simp [hgrid] at h
        omega⟩
      simp only [Interval.search, hgrid]
      refine ih (j := j) (by omega) ?_
      rwa [show k - 1 - (j : ℤ) = k - (j + 1 : ℕ) by omega]

/-! ### Seventeen digits -/

/-- The absolute value of a finite number. -/
def value (x : Binary64) : ℚ := x.significand * 2 ^ x.exponent

/-- The value of a number, in places. -/
theorem value_div (x : Binary64) : x.value / 2 ^ x.exponent = x.significand :=
  mul_div_cancel_right₀ _ (zpow_pos two_pos x.exponent).ne'

/-- The interval of a number is around its value. -/
theorem interval_mid_div_den (x : Binary64) :
    (x.interval.mid : ℚ) / x.interval.den = x.value := by
  have hpower := zpow_eq_div 2 two_ne_zero (x.exponent - 2)
  rw [Nat.cast_ofNat] at hpower
  have hexponent : (2 : ℚ) ^ x.exponent = 4 * 2 ^ (x.exponent - 2) := by
    conv_lhs => rw [show x.exponent = 2 + (x.exponent - 2) by omega, zpow_add₀ two_ne_zero]
    norm_num
  rw [value, hexponent, hpower]
  simp only [interval, powerOfTwo_eq]
  push_cast
  ring

/-- An interval has a denominator. -/
theorem interval_den_pos (x : Binary64) : 0 < x.interval.den := Nat.two_pow_pos _

/-- The rounding interval of a number other than zero includes its value. -/
theorem value_includes (hx : x.magnitude ≠ 0) : x.interval.Includes x.value := by
  have hbelow := x.quartersBelow_eq
  have hpos : (0 : ℚ) < x.quartersBelow := by exact_mod_cast (by omega : 0 < x.quartersBelow)
  rw [interval_includes_iff hx, value_div]
  split <;> constructor <;> linarith

/-- The first grid that is tried has no more than one digit for the value. -/
theorem zpow_decade_le (hfinite : x.isInfinite = false) (hx : x.magnitude ≠ 0) :
    (10 : ℚ) ^ (x.interval.decade - 1) ≤ x.value := by
  obtain ⟨n, hn⟩ : ∃ n, x.interval.mid * powerOfTen 400 / x.interval.den = n := ⟨_, rfl⟩
  obtain ⟨p, hp⟩ : ∃ p, powerOfTen 400 = p := ⟨_, rfl⟩
  have hpower : (p : ℚ) = 10 ^ (400 : ℤ) := by
    rw [← hp, powerOfTen_eq, zpow_ofNat]
    exact Nat.cast_pow 10 400
  have hdecade : x.interval.decade = decimalLength n - 400 := by rw [← hn]; rfl
  rw [hp] at hn
  have hle : (n : ℚ) ≤ x.value * p := by
    have hden : (0 : ℚ) < x.interval.den := Nat.cast_pos.mpr x.interval_den_pos
    have hmul : n * x.interval.den ≤ x.interval.mid * p := hn ▸ Nat.div_mul_le_self _ _
    rw [← interval_mid_div_den, div_mul_eq_mul_div, le_div_iff₀ hden]
    exact_mod_cast hmul
  rw [hdecade]
  rcases hlength : decimalLength n with _ | l
  · have hrange := (range_of_includes hfinite hx (value_includes hx)).1
    refine le_trans (zpow_le_zpow_right₀ (by norm_num) ?_) hrange
    omega
  · have hdigits : 10 ^ l ≤ n := by
      rw [← not_lt, ← decimalLength_le_iff]
      omega
    have hscaled : (10 : ℚ) ^ ((l : ℤ) - 400) * 10 ^ (400 : ℤ) ≤ x.value * 10 ^ (400 : ℤ) := by
      rw [← zpow_add₀ (by norm_num), sub_add_cancel, zpow_natCast, ← hpower]
      refine le_trans ?_ hle
      exact_mod_cast hdigits
    have hvalue := le_of_mul_le_mul_right hscaled (zpow_pos (by norm_num) _)
    rwa [show ((l + 1 : ℕ) : ℤ) - 400 - 1 = l - 400 by omega]

/-- The step of the grid of `10 ^ k`, in places. -/
def gridStep (x : Binary64) (k : ℤ) : ℚ := 10 ^ k / 2 ^ x.exponent

/-- A grid has points on both sides of the value, one step apart. -/
theorem floorOn_spec (x : Binary64) (k : ℤ) :
    x.interval.floorOn k * x.gridStep k ≤ x.significand ∧
      (x.significand : ℚ) < (x.interval.floorOn k + 1) * x.gridStep k := by
  have hpow : (0 : ℚ) < 10 ^ k := by positivity
  have hplace : (0 : ℚ) < 2 ^ x.exponent := by positivity
  have hscale := div_zpow_eq 10 (by decide) x.interval.mid x.interval.den k
  rw [Nat.cast_ofNat, interval_mid_div_den] at hscale
  rw [gridStep, ← x.value_div, ← mul_div_assoc, ← mul_div_assoc,
    div_le_div_iff_of_pos_right hplace, div_lt_div_iff_of_pos_right hplace, ← le_div_iff₀ hpow,
    ← div_lt_iff₀ hpow, hscale]
  have hden : 0 < x.interval.den * 10 ^ k.toNat := Nat.mul_pos x.interval_den_pos (by positivity)
  have hden' : (0 : ℚ) < (x.interval.den * 10 ^ k.toNat : ℕ) := Nat.cast_pos.mpr hden
  rw [le_div_iff₀ hden', div_lt_iff₀ hden']
  constructor
  · exact_mod_cast Nat.div_mul_le_self _ _
  · exact_mod_cast (Nat.lt_mul_div_succ _ hden).trans_eq (Nat.mul_comm _ _)

/-- A point of a grid less than half a place away, or less than a quarter below, reads back. -/
theorem contains_of_lt (hx : x.magnitude ≠ 0) {c : ℕ} {k : ℤ}
    (hlow : (x.significand : ℚ) - x.quartersBelow / 4 < c * x.gridStep k)
    (hhigh : c * x.gridStep k < x.significand + 1 / 2) : x.interval.contains c k = true := by
  rw [gridStep, ← mul_div_assoc] at hlow hhigh
  rw [Interval.contains_iff, interval_includes_iff hx]
  split
  · exact ⟨hlow.le, hhigh.le⟩
  · exact ⟨hlow, hhigh⟩

/-- **A grid of seventeen digits has a point that reads back.** -/
theorem isSome_onGrid (hx : x.magnitude ≠ 0) {k : ℤ} (hk : (10 : ℚ) ^ (k + 16) ≤ x.value)
    (tie : TieRule) : (x.interval.onGrid tie k).isSome := by
  obtain ⟨hlower, hupper⟩ := x.floorOn_spec k
  have hfine : x.gridStep k * 10 ^ 16 ≤ x.significand := by
    rw [gridStep, ← x.value_div, div_mul_eq_mul_div]
    rw [zpow_add₀ (by norm_num), zpow_ofNat] at hk
    gcongr
  rw [(x.interval.onGrid_spec tie k).2]
  rcases x.quartersBelow_eq with hclose | hhalf
  · -- the interval is short below the value, so it is the upper neighbour that reads back
    have hpower := (quartersBelow_eq_one_iff.mp hclose).1
    have hshort : x.gridStep k < 1 / 2 := by
      rw [hpower] at hfine
      norm_num [hiddenBit] at hfine
      linarith
    refine .inr (contains_of_lt hx ?_ ?_)
    · rw [hclose]
      push_cast
      linarith
    · push_cast
      linarith
  · -- the two neighbours are less than a place apart, so one is less than half a place away
    have hshort : x.gridStep k < 1 := by
      have hlt : (x.significand : ℚ) + 1 ≤ 2 * hiddenBit := by exact_mod_cast x.significand_lt
      norm_num [hiddenBit] at hlt hfine
      linarith
    have hbelow : (x.quartersBelow : ℚ) / 4 = 1 / 2 := by
      rw [hhalf]
      norm_num
    rcases lt_or_ge (x.significand - x.interval.floorOn k * x.gridStep k) (1 / 2) with hnear | hfar
    · exact .inl (contains_of_lt hx (by linarith) (by linarith))
    · exact .inr (contains_of_lt hx (by push_cast; linarith) (by push_cast; linarith))

/-- **The digits of a finite number** other than zero read back as the number. -/
theorem shortest_includes (hfinite : x.isInfinite = false) (hx : x.magnitude ≠ 0) (tie : TieRule) :
    x.interval.Includes (x.shortest tie).value := by
  obtain ⟨c, k, hsearch⟩ : ∃ c k, x.interval.search tie 17 (x.interval.decade - 1) = (c, k) :=
    ⟨_, _, rfl⟩
  have hgrid := isSome_onGrid hx (k := x.interval.decade - 1 - (16 : ℕ))
    (by simpa using zpow_decade_le hfinite hx) tie
  have hcontains := Interval.contains_search (by decide : 16 < 17) hgrid
  rw [hsearch, Interval.contains_iff] at hcontains
  have hvalue : (x.shortest tie).value = (c : ℚ) * 10 ^ k := by
    simp only [shortest, if_neg hx, hsearch]
    exact DecimalDigits.value_strip c k
  rwa [hvalue]

/-- The digits of a finite number other than zero, as decimal digits. -/
theorem isDigit_shortest (tie : TieRule) : ∀ c ∈ (x.shortest tie).digits, c.isDigit := by
  intro c hc
  simp only [shortest] at hc
  split at hc
  · obtain rfl := List.mem_singleton.mp hc
    rfl
  · have hmem := (List.dropWhile_suffix _).mem (List.mem_reverse.mp hc)
    exact Nat.isDigit_of_mem_toDigits (by decide) (by decide) (List.mem_reverse.mp hmem)

/-- **The digits of a finite number around the point read back as the number.** -/
theorem ofDecimal_positional (hfinite : x.isInfinite = false) (tie : TieRule) :
    ofDecimal x.negative
      (natOfDigits ((x.shortest tie).positional.1 ++ (x.shortest tie).positional.2))
      (-((x.shortest tie).positional.2.length : ℤ)) = x := by
  by_cases hx : x.magnitude = 0
  · obtain ⟨negative, magnitude, hle⟩ := x
    obtain rfl : magnitude = 0 := hx
    rfl
  · refine ofDecimal_of_includes hfinite hx ?_
    rw [DecimalDigits.value_positional]
    exact shortest_includes hfinite hx tie

end Binary64

end DataModel
