import DataModel.Text.Words

/-!
# Small letters stay as they are

Putting a character into small letters once is enough: what comes out is not moved again. The table
of distances shows it span by span, because no span of capital letters lands on another one
(`Shift.landsClear`). An underscore comes from an underscore only.

The one place where the small form of a text depends on more than its characters is a capital sigma,
which looks at its neighbours as far as the next underscore. A text is therefore put into small
letters piece by piece between underscores.

## Main results

* `isSmall_of_mem_lowerChars`: the small form of a character is not moved again, and an underscore
  is the small form of itself only.
* `lowerAfter_eq_self`: a text in small letters stays as it is.
* `lowerAfter_append_underscore`: what follows an underscore does not matter for what precedes it.
-/

namespace DataModel.Text

/-- The character is its own small form. -/
def IsSmall (c : Char) : Prop := lowerChars c = [c]

instance (c : Char) : Decidable (IsSmall c) := inferInstanceAs (Decidable (lowerChars c = [c]))

/-- What a test of every entry of a list says. The test runs through the list, where deciding the
same statement might run through all characters. -/
theorem forall_mem_of_all {p : Char → Prop} [DecidablePred p] {cs : List Char}
    (h : (cs.all fun c => decide (p c)) = true) : ∀ c ∈ cs, p c :=
  fun c hc => of_decide_eq_true (List.all_eq_true.mp h c hc)

/-! ### Where the spans land -/

namespace Shift

/-- The code point that the first one of the span is moved to. -/
def low (s : Shift) : Nat := (s.span.first + s.distance).toNat

/-- The code point that the last one of the span is moved to. -/
def high (s : Shift) : Nat := (s.span.last + s.distance).toNat

/-- Whether the characters that a span is moved to lie outside another span: before it, after it, or
between its every other code points. -/
def avoids (s : Shift) (u : Span) : Bool :=
  Nat.blt u.last s.low || Nat.blt s.high u.first ||
    (Nat.beq u.step 2 && (Nat.beq s.span.step 2 || Nat.beq s.span.first s.span.last) &&
      Nat.beq ((s.low + u.first) % 2) 1)

/-- Whether a span is moved to characters beyond the underscore that are not moved themselves. -/
def landsClear (s : Shift) : Bool :=
  Nat.blt '_'.toNat s.low &&
    (Nat.blt s.high 0xD800 || Nat.blt 0xDFFF s.low && Nat.blt s.high 0x110000) &&
    s.avoids ⟨0x130, 0x130, 1⟩ && lowerShifts.all fun u => s.avoids u.span

/-- No span of capital letters is moved onto another one. -/
theorem landsClear_of_mem : ∀ s ∈ lowerShifts, s.landsClear = true := by
  decide +kernel

variable {s : Shift} {n : Nat}

/-- A code point of a span is moved between the places of the first and the last one. -/
theorem low_le_moved_le_high (hn : s.span.contains n = true) :
    s.low ≤ (n + s.distance).toNat ∧ (n + s.distance).toNat ≤ s.high := by
  simp only [Span.contains, Bool.and_eq_true, decide_eq_true_eq] at hn
  unfold low high
  omega

/-- A code point that is moved off a span is not on it. -/
theorem contains_eq_false_of_avoids {u : Span} (hlow : 0 < s.low) (hn : s.span.contains n = true)
    (h : s.avoids u = true) : u.contains (n + s.distance).toNat = false := by
  obtain ⟨hfirst, hlast⟩ := low_le_moved_le_high hn
  rw [Bool.eq_false_iff]
  intro hu
  simp only [Span.contains, Bool.and_eq_true, decide_eq_true_eq, beq_iff_eq] at hn hu
  simp only [avoids, Bool.or_eq_true, Bool.and_eq_true, Nat.blt_eq, Nat.beq_eq] at h
  rcases h with (h | h) | ⟨⟨hstep, hsparse⟩, hodd⟩
  · omega
  · omega
  · -- the spans interleave: one has the even code points, the other is moved onto odd ones
    unfold low at hfirst hlow hodd
    rw [hstep] at hu
    rcases hsparse with hsparse | hsparse
    · rw [hsparse] at hn
      omega
    · omega

/-- A code point that a span is moved to is a character beyond the underscore. -/
theorem isValidChar_moved (h : s.landsClear = true) (hn : s.span.contains n = true) :
    '_'.toNat < (n + s.distance).toNat ∧ (n + s.distance).toNat.isValidChar := by
  obtain ⟨hfirst, hlast⟩ := low_le_moved_le_high hn
  simp only [landsClear, Bool.or_eq_true, Bool.and_eq_true, Nat.blt_eq] at h
  unfold Nat.isValidChar
  omega

end Shift

/-! ### Characters -/

/-- The small forms of the characters of ASCII are not moved again, and only the underscore becomes
one. -/
theorem ascii_lowerChars : ∀ n < 128, ((lowerChars (Char.ofNat n)).all fun x =>
    decide (IsSmall x ∧ (x = '_' → Char.ofNat n = '_'))) = true := by
  decide +kernel

/-- Beyond the underscore, ASCII has no letters that are moved. -/
theorem ascii_isSmall : ∀ n < 128, '_'.toNat < n → IsSmall (Char.ofNat n) := by
  decide +kernel

/-- Only the capital I with a dot has a small form of several characters. -/
theorem lookup_lowerSpecials {n : Nat} (h : n ≠ 0x130) : lowerSpecials.lookup n = none := by
  rw [List.lookup_eq_none_iff]
  simp [lowerSpecials, h]

/-- A character beyond ASCII that no table mentions is its own small form. -/
theorem isSmall_of_not_contains {c : Char} (hascii : ¬ c.toNat < 128) (hspecial : c.toNat ≠ 0x130)
    (h : ∀ u ∈ lowerShifts, u.span.contains c.toNat = false) : IsSmall c := by
  have hfind : lowerShifts.find? (·.span.contains c.toNat) = none :=
    List.find?_eq_none.mpr fun u hu => by simp [h u hu]
  simp only [IsSmall, lowerChars, if_neg hascii, mapCase, lookup_lowerSpecials hspecial, hfind]

/-- What becomes of a character beyond ASCII: it stays, it is the capital I with a dot, or it is
moved with its span. -/
theorem lowerChars_cases {c : Char} (hascii : ¬ c.toNat < 128) :
    lowerChars c = [c] ∨ lowerChars c = [Char.ofNat 0x69, Char.ofNat 0x307] ∨
      ∃ s ∈ lowerShifts, s.span.contains c.toNat = true ∧
        lowerChars c = [Char.ofNat (c.toNat + s.distance).toNat] := by
  by_cases hspecial : c.toNat = 0x130
  · simp [lowerChars, mapCase, lowerSpecials, hspecial]
  · simp only [lowerChars, if_neg hascii, mapCase, lookup_lowerSpecials hspecial]
    cases hfind : lowerShifts.find? (·.span.contains c.toNat) with
    | none => exact .inl rfl
    | some s =>
        have hn : s.span.contains c.toNat = true := by simpa using List.find?_some hfind
        exact .inr (.inr ⟨s, List.mem_of_find?_eq_some hfind, hn, rfl⟩)

/-- A character that is moved with its span is not moved again and is no underscore. -/
theorem isSmall_moved {s : Shift} (hs : s ∈ lowerShifts) {n : Nat} (hn : s.span.contains n = true) :
    IsSmall (Char.ofNat (n + s.distance).toNat) ∧ Char.ofNat (n + s.distance).toNat ≠ '_' := by
  have hclear := s.landsClear_of_mem hs
  obtain ⟨hbeyond, hvalid⟩ := Shift.isValidChar_moved hclear hn
  have htoNat : (Char.ofNat (n + s.distance).toNat).toNat = (n + s.distance).toNat := by
    rw [Char.ofNat, dif_pos hvalid]
    rfl
  refine ⟨?_, fun h => ?_⟩
  · by_cases hascii : (n + s.distance).toNat < 128
    · exact ascii_isSmall _ hascii hbeyond
    · have hlow : 0 < s.low := by
        simp only [Shift.landsClear, Bool.and_eq_true, Nat.blt_eq] at hclear
        omega
      simp only [Shift.landsClear, Bool.and_eq_true, List.all_eq_true] at hclear
      have hoff : ∀ u, s.avoids u = true → u.contains (n + s.distance).toNat = false := fun u hu =>
        Shift.contains_eq_false_of_avoids hlow hn hu
      refine isSmall_of_not_contains (by rwa [htoNat]) ?_ fun u hu => ?_
      · rw [htoNat]
        intro heq
        have hdotted := hoff _ hclear.1.2
        simp [heq, Span.contains] at hdotted
      · rw [htoNat]
        exact hoff _ (hclear.2 u hu)
  · rw [h] at htoNat
    omega

/-- **The small form of a character** is not moved again, and an underscore comes from an underscore
only. -/
theorem isSmall_of_mem_lowerChars {c x : Char} (h : x ∈ lowerChars c) :
    IsSmall x ∧ (x = '_' → c = '_') := by
  by_cases hascii : c.toNat < 128
  · have hc : Char.ofNat c.toNat = c := Char.ofNat_toNat c
    rw [← hc] at h ⊢
    exact forall_mem_of_all (ascii_lowerChars _ hascii) x h
  · rcases lowerChars_cases hascii with hsame | hdotted | ⟨s, hs, hn, hmoved⟩
    · rw [hsame, List.mem_singleton] at h
      subst h
      exact ⟨hsame, id⟩
    · rw [hdotted] at h
      have hall : ∀ y ∈ [Char.ofNat 0x69, Char.ofNat 0x307], IsSmall y ∧ y ≠ '_' :=
        forall_mem_of_all (by decide +kernel)
      obtain ⟨hsmall, hne⟩ := hall x h
      exact ⟨hsmall, fun hx => absurd hx hne⟩
    · rw [hmoved, List.mem_singleton] at h
      subst h
      obtain ⟨hsmall, hne⟩ := isSmall_moved hs hn
      exact ⟨hsmall, fun hx => absurd hx hne⟩

/-! ### Texts -/

/-- A character has a small form. -/
theorem lowerChars_ne_nil (c : Char) : lowerChars c ≠ [] := by
  by_cases hascii : c.toNat < 128
  · simp [lowerChars, hascii]
  · rcases lowerChars_cases hascii with h | h | ⟨s, -, -, h⟩ <;> simp [h]

/-- The capital sigma is moved, so a text in small letters has none. -/
theorem not_isSmall_capitalSigma : ¬ IsSmall capitalSigma := by
  decide +kernel

/-- **A text in small letters** stays as it is. -/
theorem lowerAfter_eq_self {before cs : List Char} (h : ∀ c ∈ cs, IsSmall c) :
    lowerAfter before cs = cs := by
  induction cs generalizing before with
  | nil => rfl
  | cons c rest ih =>
      obtain ⟨hc, hrest⟩ := List.forall_mem_cons.mp h
      have hsigma : c ≠ capitalSigma := fun heq => not_isSmall_capitalSigma (heq ▸ hc)
      have hsame : lowerChars c = [c] := hc
      simp [lowerAfter, hsigma, hsame, ih hrest]

/-- A sigma looks no further than the next underscore. -/
theorem nextIsCased_append_underscore (cs rest : List Char) :
    nextIsCased (cs ++ '_' :: rest) = nextIsCased (cs ++ ['_']) := by
  have hstop : isCaseIgnorable '_' = false := by decide +kernel
  unfold nextIsCased
  induction cs with
  | nil => simp [hstop]
  | cons c cs ih =>
      by_cases hc : isCaseIgnorable c = true
      · simpa [hc] using ih
      · simp [hc]

/-- **What follows an underscore** does not matter for what precedes it. -/
theorem lowerAfter_append_underscore (before cs rest : List Char) :
    lowerAfter before (cs ++ '_' :: rest) =
      lowerAfter before (cs ++ ['_']) ++ lowerAfter ('_' :: (cs.reverse ++ before)) rest := by
  have hsigma : '_' ≠ capitalSigma := by decide
  induction cs generalizing before with
  | nil => simp [lowerAfter, hsigma]
  | cons c cs ih =>
      simp only [List.cons_append, lowerAfter, nextIsCased_append_underscore cs rest, ih]
      simp

/-- A text before an underscore is put into small letters apart from small letters after it. -/
theorem lowercase_append_underscore {s t : String} (ht : ∀ c ∈ t.toList, IsSmall c) :
    lowercase (s ++ "_" ++ t) = lowercase (s ++ "_") ++ t := by
  apply String.toList_inj.mp
  have hsplit := lowerAfter_append_underscore [] s.toList t.toList
  rw [lowerAfter_eq_self ht] at hsplit
  simpa [lowercase] using hsplit

/-- A text in small letters is its own small form. -/
theorem lowercase_eq_self {s : String} (h : ∀ c ∈ s.toList, IsSmall c) : lowercase s = s := by
  rw [lowercase, lowerAfter_eq_self h, String.ofList_toList]

end DataModel.Text
