import DataModel.Json.Reader
import Mathlib.Data.List.Basic
import Mathlib.Data.List.TakeDrop

/-!
# Reading back what was rendered

`Json.parse` undoes `Json.render` on every value without binary64 numbers whose integers fit the
64 bits that the reader keeps apart from them. Such a value is `Json.IsExact`.

The reader never looks at the text after a value, with one exception: digits, a point or an exponent
right after a number would be read as part of it. `NumberEnds` says that the text goes on with none
of these, which is what the commas and closing brackets of an array or object see to. The fuel is
never short, since a value nested in another has a shorter text.

## Main results

* `Json.stringTail_flatMap_escape`: a string is read back whatever its characters are.
* `Json.IsExact.reads`: an exact value is read back from its text in front of any other text.
* `Json.parse_render`: **an exact value is read back from its compact text**.
-/

namespace DataModel.Json

/-- No number is binary64 and every integer has 64 bits, with sign or without. -/
inductive IsExact : Json → Prop
  | null : IsExact .null
  | bool (b : Bool) : IsExact (.bool b)
  | int {n : Int} (fits : fitsInt64 n ∨ fitsUInt64 n) : IsExact (.int n)
  | string (s : String) : IsExact (.string s)
  | array {items : List Json} (exact : ∀ item ∈ items, IsExact item) : IsExact (.array items)
  | object {entries : List (String × Json)} (exact : ∀ e ∈ entries, IsExact e.2) :
      IsExact (.object entries)

attribute [simp] IsExact.bool IsExact.string

/-- An array is exact if its items are. -/
@[simp]
theorem isExact_array {items : List Json} :
    (Json.array items).IsExact ↔ ∀ item ∈ items, item.IsExact :=
  ⟨fun | .array h => h, .array⟩

/-- An object is exact if its values are. -/
@[simp]
theorem isExact_object {entries : List (String × Json)} :
    (Json.object entries).IsExact ↔ ∀ e ∈ entries, e.2.IsExact :=
  ⟨fun | .object h => h, .object⟩

/-! ## Strings -/

/-- An escape of a control character has four digits that denote it. -/
theorem hexQuad_hexByte :
    ∀ n < 32, hexQuad '0' '0' (Nat.digitChar (n / 16)) (Nat.digitChar (n % 16)) = some n := by
  decide

/-- Every character has its own code point. -/
theorem scalar?_toNat (c : Char) : scalar? c.toNat = some c := by
  have hvalid : c.toNat.isValidChar := c.valid
  rw [scalar?, if_pos hvalid, Char.ofNat_toNat]

/-- A character that needs no escape stands for itself. -/
theorem stringTail_cons {c : Char} (hquote : c ≠ '"') (hbackslash : c ≠ '\\')
    (hcontrol : ¬ c.toNat < 0x20) (cs : List Char) :
    stringTail (c :: cs) = (stringTail cs).map fun (s, r) => (c :: s, r) := by
  rw [stringTail.eq_def]
  split
  case h_6 heq =>
    obtain ⟨rfl, rfl⟩ := List.cons.inj heq
    rw [if_neg hcontrol]
  all_goals simp_all

/-- However a character is escaped, it is read as itself. -/
theorem stringTail_escape_append (c : Char) (cs : List Char) :
    stringTail (escape c ++ cs) = (stringTail cs).map fun (s, r) => (c :: s, r) := by
  unfold escape
  -- seven characters have an escape of one letter
  iterate 7
    split
    case isTrue h => subst h; rfl
  split
  case isTrue hcontrol =>
    have hquad := hexQuad_hexByte c.toNat hcontrol
    simp [hexByte, stringTail, hquad, scalar?_toNat]
  case isFalse hquote hbackslash _ _ _ _ _ hcontrol =>
    exact stringTail_cons hquote hbackslash hcontrol cs

/-- **A string is read back whatever its characters are.** -/
theorem stringTail_flatMap_escape (s rest : List Char) :
    stringTail (s.flatMap escape ++ '"' :: rest) = some (s, rest) := by
  induction s with
  | nil => rfl
  | cons c s ih =>
    rw [List.flatMap_cons, List.append_assoc, stringTail_escape_append, ih]
    rfl

/-! ## Integers -/

/-- The text does not go on with a digit, a point or an exponent. -/
def NumberEnds (rest : List Char) : Prop :=
  ∀ c ∈ rest.head?, c.isDigit = false ∧ c ≠ '.' ∧ c ≠ 'e' ∧ c ≠ 'E'

/-- The number of decimal digits is the one they were made from. -/
@[simp]
theorem natOfDigits_toDigits (n : Nat) : natOfDigits (Nat.toDigits 10 n) = n := by
  have hdigits := Nat.ofDigitChars_ten_toDigits (n := n)
  unfold Nat.ofDigitChars at hdigits
  unfold natOfDigits
  simpa [Nat.mul_comm] using hdigits

/-- A positive number is written without a zero in front. -/
theorem head?_toDigits_ne {n : Nat} (hn : n ≠ 0) : (Nat.toDigits 10 n).head? ≠ some '0' := by
  induction n using Nat.strongRecOn with
  | ind n ih =>
    by_cases hsmall : n < 10
    · rw [Nat.toDigits_of_lt_base hsmall]
      have hdigit : ∀ m < 10, m ≠ 0 → Nat.digitChar m ≠ '0' := by decide
      simpa using hdigit n hsmall hn
    · rw [Nat.toDigits_of_base_le (by omega) (by omega),
        List.head?_append_of_ne_nil _ Nat.toDigits_ne_nil]
      exact ih (n / 10) (by omega) (by omega)

/-- A run of digits ends before anything that is no digit. -/
theorem digitRun_append {ds rest : List Char} (hds : ∀ c ∈ ds, c.isDigit)
    (hrest : ∀ c ∈ rest.head?, c.isDigit = false) : digitRun (ds ++ rest) = (ds, rest) := by
  rw [digitRun, List.span_eq_takeWhile_dropWhile, List.takeWhile_append_of_pos hds,
    List.dropWhile_append_of_pos hds]
  cases rest with
  | nil => simp
  | cons c rest => simp [hrest c rfl]

/-- There is no fraction where the number ends. -/
theorem fractionPart_of_numberEnds {rest : List Char} (hrest : NumberEnds rest) :
    fractionPart rest = some (none, rest) := by
  cases rest with
  | nil => rfl
  | cons c rest =>
    have hpoint := (hrest c rfl).2.1
    rw [fractionPart.eq_def]
    split <;> simp_all

/-- There is no exponent where the number ends. -/
theorem exponentPart_of_numberEnds {rest : List Char} (hrest : NumberEnds rest) :
    exponentPart rest = some (none, rest) := by
  cases rest with
  | nil => rfl
  | cons c rest =>
    obtain ⟨-, -, hsmall, hlarge⟩ := hrest c rfl
    simp [exponentPart, hsmall, hlarge]

/-- The digits of a number are read back, with the sign before them. -/
theorem number_toDigits (negative : Bool) (n : Nat) {rest : List Char} (hrest : NumberEnds rest) :
    number negative (Nat.toDigits 10 n ++ rest) =
      (numberValue negative (Nat.toDigits 10 n) none none).map (·, rest) := by
  have hds : ∀ c ∈ Nat.toDigits 10 n, c.isDigit := fun c hc =>
    Nat.isDigit_of_mem_toDigits (by omega) (by omega) hc
  have hne : Nat.toDigits 10 n ≠ [] := Nat.toDigits_ne_nil
  have hzero : ¬ (1 < (Nat.toDigits 10 n).length ∧ (Nat.toDigits 10 n).head? = some '0') := by
    rintro ⟨hlength, hhead⟩
    refine head?_toDigits_ne ?_ hhead
    rintro rfl
    exact absurd hlength (by decide)
  have hrun := digitRun_append hds fun c hc => (hrest c hc).1
  simp [number, hrun, fractionPart_of_numberEnds hrest,
    exponentPart_of_numberEnds hrest, hne, hzero]
  cases numberValue negative (Nat.toDigits 10 n) none none <;> rfl

/-- Every number starts with a digit. -/
theorem exists_toDigits_eq_cons (n : Nat) :
    ∃ c cs, Nat.toDigits 10 n = c :: cs ∧ c.isDigit := by
  obtain ⟨c, cs, hdigits⟩ := List.exists_cons_of_ne_nil (Nat.toDigits_ne_nil (n := n) (b := 10))
  refine ⟨c, cs, hdigits, Nat.isDigit_of_mem_toDigits (b := 10) (n := n) (by omega) (by omega) ?_⟩
  rw [hdigits]
  exact List.mem_cons_self

/-- A digit is no blank and no bracket, and it starts no other value. -/
theorem not_mem_of_isDigit {c : Char} (hc : c.isDigit) :
    c ∉ [' ', '\t', '\n', '\r', ']', '[', '\x7b', '"', 'n', 't', 'f', '-'] := by
  intro hmem
  have hnone : ∀ d ∈ [' ', '\t', '\n', '\r', ']', '[', '\x7b', '"', 'n', 't', 'f', '-'],
      d.isDigit = false := by simp
  rw [hnone c hmem] at hc
  nomatch hc

/-- Text that starts with a digit is read as a number. -/
theorem value_of_isDigit {c : Char} (hc : c.isDigit) (fuel : Nat) (cs : List Char) :
    value (fuel + 1) (c :: cs) = number false (c :: cs) := by
  have hother := not_mem_of_isDigit hc
  simp only [List.mem_cons, not_or] at hother
  obtain ⟨hspace, htab, hline, hreturn, -, hbracket, hbrace, hquote, hn, ht, hf, hminus, -⟩ :=
    hother
  have hblanks : skipBlanks (c :: cs) = c :: cs := by
    simp [skipBlanks, hspace, htab, hline, hreturn]
  rw [value, hblanks]
  split <;> simp_all

/-- An integer of 64 bits is read back. -/
theorem value_intChars {n : Int} (hn : fitsInt64 n ∨ fitsUInt64 n) (fuel : Nat) {rest : List Char}
    (hrest : NumberEnds rest) :
    value (fuel + 1) (intChars n ++ rest) = some (.int n, rest) := by
  simp only [fitsInt64, fitsUInt64, Bool.and_eq_true, decide_eq_true_eq] at hn
  obtain ⟨m, hm⟩ : ∃ m, n.natAbs = m := ⟨_, rfl⟩
  rw [intChars, hm]
  split
  case isTrue hneg =>
    have hvalue : value (fuel + 1) ('-' :: (Nat.toDigits 10 m ++ rest)) =
        number true (Nat.toDigits 10 m ++ rest) := rfl
    have habs : -(m : Int) = n := by omega
    have hzero : m ≠ 0 := by omega
    have hfits : fitsInt64 n := by
      simp only [fitsInt64, Bool.and_eq_true, decide_eq_true_eq]
      omega
    rw [List.cons_append, hvalue, number_toDigits true m hrest]
    simp [numberValue, habs, hzero, hfits]
  case isFalse hneg =>
    obtain ⟨c, cs, hdigits, hc⟩ := exists_toDigits_eq_cons m
    have hvalue : value (fuel + 1) (Nat.toDigits 10 m ++ rest) =
        number false (Nat.toDigits 10 m ++ rest) := by
      rw [hdigits]
      exact value_of_isDigit hc fuel (cs ++ rest)
    have habs : (m : Int) = n := by omega
    have hfits : fitsUInt64 n := by
      simp only [fitsUInt64, Bool.and_eq_true, decide_eq_true_eq]
      omega
    rw [hvalue, number_toDigits false m hrest]
    simp [numberValue, habs, hfits]

/-! ## Values -/

/-- The value is read back from its text in front of any text that may follow it, with more fuel
than its text is long. -/
def Reads (j : Json) : Prop :=
  ∀ fuel rest, NumberEnds rest → j.chars.length ≤ fuel →
    value (fuel + 1) (j.chars ++ rest) = some (j, rest)

/-- A number ends at a character that could not belong to it. -/
theorem numberEnds_cons {c : Char} (hc : c.isDigit = false ∧ c ≠ '.' ∧ c ≠ 'e' ∧ c ≠ 'E')
    (rest : List Char) : NumberEnds (c :: rest) := by
  simpa [NumberEnds] using hc

/-- A number ends before the next item and at the end of the array. -/
theorem numberEnds_moreItems (items : List Json) (rest : List Char) :
    NumberEnds (moreItems items ++ rest) := by
  cases items <;> exact numberEnds_cons (by decide) _

/-- A number ends before the next entry and at the end of the object. -/
theorem numberEnds_moreEntries (entries : List (String × Json)) (rest : List Char) :
    NumberEnds (moreEntries entries ++ rest) := by
  cases entries <;> exact numberEnds_cons (by decide) _

/-- The items of an array are read back. -/
theorem items_of_reads {item : Json} {items : List Json} (fuel : Nat) (rest : List Char)
    (hitem : item.Reads) (hitems : ∀ i ∈ items, i.Reads)
    (hfuel : item.chars.length + (moreItems items).length < fuel) :
    Json.items fuel (item.chars ++ (moreItems items ++ rest)) = some (item :: items, rest) := by
  induction items generalizing item fuel with
  | nil =>
    simp only [moreItems, List.length_singleton] at hfuel
    obtain ⟨fuel, rfl⟩ : ∃ n, fuel = n + 2 := ⟨fuel - 2, by omega⟩
    have hvalue := hitem fuel _ (numberEnds_moreItems [] rest) (by omega)
    rw [Json.items, hvalue]
    rfl
  | cons next items ih =>
    simp only [moreItems, List.length_cons, List.length_append] at hfuel
    obtain ⟨fuel, rfl⟩ : ∃ n, fuel = n + 2 := ⟨fuel - 2, by omega⟩
    have hvalue := hitem fuel _ (numberEnds_moreItems (next :: items) rest) (by omega)
    have hmore := ih (fuel + 1) (hitems next List.mem_cons_self)
      (fun i hi => hitems i (List.mem_cons_of_mem next hi)) (by omega)
    rw [Json.items, hvalue]
    simp [moreItems, skipBlanks, hmore]

/-- After a key and a colon the reader wants a value. -/
theorem entries_stringChars (fuel : Nat) (key : String) (cs : List Char) :
    Json.entries (fuel + 1) (stringChars key ++ ':' :: cs) =
      match value fuel cs with
      | none => none
      | some (item, rest) =>
        match skipBlanks rest with
        | '\x7d' :: rest => some ([(key, item)], rest)
        | ',' :: rest => (Json.entries fuel rest).map fun (xs, r) => ((key, item) :: xs, r)
        | _ => none := by
  have hquote : skipBlanks (stringChars key ++ ':' :: cs) =
      '"' :: (key.toList.flatMap escape ++ '"' :: ':' :: cs) := by
    simp [stringChars, skipBlanks]
  rw [Json.entries, hquote]
  simp only [stringTail_flatMap_escape, String.ofList_toList]
  rfl

/-- The entries of an object are read back. -/
theorem entries_of_reads {item : Json} {entries : List (String × Json)} (fuel : Nat)
    (key : String) (rest : List Char) (hitem : item.Reads) (hentries : ∀ e ∈ entries, e.2.Reads)
    (hfuel : item.chars.length + (moreEntries entries).length < fuel) :
    Json.entries fuel (stringChars key ++ ':' :: (item.chars ++ (moreEntries entries ++ rest))) =
      some ((key, item) :: entries, rest) := by
  induction entries generalizing key item fuel with
  | nil =>
    simp only [moreEntries, List.length_singleton] at hfuel
    obtain ⟨fuel, rfl⟩ : ∃ n, fuel = n + 2 := ⟨fuel - 2, by omega⟩
    have hvalue := hitem fuel _ (numberEnds_moreEntries [] rest) (by omega)
    rw [entries_stringChars, hvalue]
    rfl
  | cons next entries ih =>
    obtain ⟨nextKey, next⟩ := next
    simp only [moreEntries, List.length_cons, List.length_append] at hfuel
    obtain ⟨fuel, rfl⟩ : ∃ n, fuel = n + 2 := ⟨fuel - 2, by omega⟩
    have hvalue := hitem fuel _ (numberEnds_moreEntries ((nextKey, next) :: entries) rest)
      (by omega)
    have hnext : next.Reads := hentries (nextKey, next) List.mem_cons_self
    have hmore := ih (fuel + 1) nextKey hnext
      (fun e he => hentries e (List.mem_cons_of_mem _ he)) (by omega)
    rw [entries_stringChars, hvalue]
    simp [moreEntries, skipBlanks, hmore]

/-- The text of an exact value starts with no blank and with no closing bracket. -/
theorem IsExact.exists_chars_eq_cons {j : Json} (hj : j.IsExact) :
    ∃ c cs, j.chars = c :: cs ∧ c ∉ [' ', '\t', '\n', '\r', ']'] := by
  cases hj with
  | null => exact ⟨_, _, rfl, by decide⟩
  | bool b => cases b <;> exact ⟨_, _, rfl, by decide⟩
  | @int n _ =>
    obtain ⟨c, cs, hdigits, hc⟩ := exists_toDigits_eq_cons n.natAbs
    simp only [chars, intChars]
    split
    · exact ⟨_, _, rfl, by decide⟩
    · exact ⟨c, cs, hdigits, fun hmem => not_mem_of_isDigit hc (List.mem_append_left _ hmem)⟩
  | string s => exact ⟨_, _, rfl, by decide⟩
  | @array items _ => cases items <;> exact ⟨_, _, rfl, by decide⟩
  | @object entries _ => cases entries <;> exact ⟨_, _, rfl, by decide⟩

/-- Text that starts with no closing bracket is read as the items of an array. -/
theorem value_bracket {fuel : Nat} {c : Char} (hc : c ∉ [' ', '\t', '\n', '\r', ']'])
    (cs : List Char) :
    value (fuel + 1) ('[' :: c :: cs) =
      (Json.items fuel (c :: cs)).map fun (xs, r) => (.array xs, r) := by
  simp only [List.mem_cons, not_or] at hc
  obtain ⟨hspace, htab, hline, hreturn, hclose, -⟩ := hc
  simp [value, skipBlanks, hspace, htab, hline, hreturn, hclose]

/-- Text that starts with a key is read as the entries of an object. -/
theorem value_brace (fuel : Nat) (key : String) (cs : List Char) :
    value (fuel + 1) ('\x7b' :: (stringChars key ++ cs)) =
      (Json.entries fuel (stringChars key ++ cs)).map fun (xs, r) => (.object xs, r) := rfl

/-- **An exact value is read back from its text in front of any other text.** -/
theorem IsExact.reads {j : Json} (hj : j.IsExact) : j.Reads := by
  induction hj with
  | null =>
    intro fuel rest _ _
    rfl
  | bool b =>
    intro fuel rest _ _
    cases b <;> rfl
  | int hn =>
    intro fuel rest hrest _
    exact value_intChars hn fuel hrest
  | string s =>
    intro fuel rest _ _
    simp [chars, stringChars, value, skipBlanks, stringTail_flatMap_escape]
  | @array items hitems ih =>
    intro fuel rest _ hfuel
    cases items with
    | nil => rfl
    | cons item items =>
      simp only [chars, List.length_append, List.length_cons] at hfuel
      have hread := items_of_reads fuel rest (ih item List.mem_cons_self)
        (fun i hi => ih i (List.mem_cons_of_mem item hi)) (by omega)
      obtain ⟨c, cs, hchars, hc⟩ := (hitems item List.mem_cons_self).exists_chars_eq_cons
      simp only [chars, hchars, List.cons_append, List.append_assoc] at hread ⊢
      rw [value_bracket hc, hread]
      rfl
  | @object entries hentries ih =>
    intro fuel rest _ hfuel
    cases entries with
    | nil => rfl
    | cons entry entries =>
      obtain ⟨key, item⟩ := entry
      simp only [chars, List.length_append, List.length_cons] at hfuel
      have hitem : item.Reads := ih (key, item) List.mem_cons_self
      have hread := entries_of_reads fuel key rest hitem
        (fun e he => ih e (List.mem_cons_of_mem _ he)) (by omega)
      simp only [chars, List.cons_append, List.append_assoc]
      rw [value_brace, hread]
      rfl

/-- **An exact value is read back from its compact text.** -/
theorem parse_render {j : Json} (hj : j.IsExact) : parse j.render = some j := by
  have hread := hj.reads j.chars.length [] (by simp [NumberEnds]) (Nat.le_refl _)
  rw [List.append_nil] at hread
  simp [parse, render, hread, skipBlanks]

end DataModel.Json
