import DataModel.Naming
import DataModel.Proofs.Text.SnakeCase
import DataModel.Token

/-!
# Names in camel case

Camel case takes the words of an identifier and drops what separates them. The words of a name are
letters and digits, and so is what comes out, but it begins with the first letter or digit of the
name wherever that stood: `_1` becomes `1`, and `_` becomes nothing. So the camel case form of a name
is a name only where its first letter or digit is a letter.

## Main results

* `flatten_words`: the words of an identifier are its alphanumeric characters, in order.
* `isName_lowerCamelCase_iff`: **the camel case form of a name is a name** exactly when the first
  letter or digit of the name is a letter.
* `startsWithLetter_pluralize`: the plural of such a name is such a name.
-/

namespace DataModel

/-! ### Names -/

variable {s t : String}

/-- The text is made of what continues a name. -/
def NameChars (s : String) : Prop := ∀ c ∈ s.toList, isNameChar c = true

instance (s : String) : Decidable (NameChars s) :=
  List.decidableBAll _ _

/-- What begins a name continues one as well. -/
theorem isNameChar_of_isNameStart {c : Char} (h : isNameStart c = true) : isNameChar c = true := by
  simp only [isNameStart, isNameChar, Char.isAlphanum, Bool.or_eq_true] at h ⊢
  exact h.imp_left .inl

/-- A name is a text of the characters of names whose first one begins a name. -/
theorem isName_iff :
    isName s = true ↔ (∃ c, s.toList.head? = some c ∧ isNameStart c = true) ∧ NameChars s := by
  unfold isName NameChars
  cases s.toList with
  | nil => simp
  | cons c rest =>
      simp only [Bool.and_eq_true, List.all_eq_true, List.head?_cons, Option.some.injEq,
        exists_eq_left', List.forall_mem_cons]
      exact ⟨fun ⟨hc, hrest⟩ => ⟨hc, isNameChar_of_isNameStart hc, hrest⟩,
        fun ⟨hc, _, hrest⟩ => ⟨hc, hrest⟩⟩

/-- A name is made of what continues a name. -/
theorem nameChars_of_isName (h : isName s = true) : NameChars s := (isName_iff.mp h).2

/-- Texts of the characters of names together are one. -/
theorem nameChars_append : NameChars (s ++ t) ↔ NameChars s ∧ NameChars t := by
  simp only [NameChars, String.toList_append, List.forall_mem_append]

/-- A name with characters of names after it is a name. -/
theorem isName_append (hs : isName s = true) (ht : NameChars t) : isName (s ++ t) = true := by
  obtain ⟨⟨c, hhead, hc⟩, hchars⟩ := isName_iff.mp hs
  refine isName_iff.mpr ⟨⟨c, ?_, hc⟩, nameChars_append.mpr ⟨hchars, ht⟩⟩
  rw [String.toList_append, List.head?_append, hhead, Option.some_or]

/-- Names joined by underscores are a name. -/
theorem isName_intercalate {names : List String} (hne : names ≠ [])
    (h : ∀ name ∈ names, isName name = true) : isName ("_".intercalate names) = true := by
  obtain ⟨first, rest, rfl⟩ := List.exists_cons_of_ne_nil hne
  obtain ⟨hfirst, hrest⟩ := List.forall_mem_cons.mp h
  induction rest generalizing first with
  | nil => simpa using hfirst
  | cons second rest ih =>
      obtain ⟨hsecond, hothers⟩ := List.forall_mem_cons.mp hrest
      rw [String.intercalate_cons_cons, String.append_assoc]
      refine isName_append hfirst (nameChars_append.mpr ⟨by decide, ?_⟩)
      exact nameChars_of_isName (ih second (by simp) hrest hsecond hothers)

namespace Text

/-! ### The characters of words -/

/-- The words of a chunk are the chunk, after what has been read of the first one. -/
theorem flatten_wordsOfChunk {last : LastCase} {word cs : List Char} (hcs : cs ≠ []) :
    (wordsOfChunk last word cs).flatten = word ++ cs := by
  fun_induction wordsOfChunk last word cs with
  | case1 => exact absurd rfl hcs
  | case2 => simp
  | case3 _ _ _ _ _ _ ih => simp [ih (by simp)]
  | case4 _ _ _ _ _ _ _ ih => simp [ih (by simp)]
  | case5 _ _ _ _ _ _ _ ih => simp [ih (by simp)]

/-- The chunks of a text are its alphanumeric characters, after what has been read of the first
one. -/
theorem flatten_chunksAfter (chunk cs : List Char) :
    (chunksAfter chunk cs).flatten = chunk ++ cs.filter isAlphanumeric := by
  fun_induction chunksAfter chunk cs with
  | case1 => simp
  | case2 chunk c rest hc ih => simp [ih, hc]
  | case3 chunk c rest hc ih => simp [ih, hc]

/-- **The words of an identifier** are its alphanumeric characters, in order. -/
theorem flatten_words (s : String) : (words s).flatten = s.toList.filter isAlphanumeric := by
  have hchunk : ∀ chunk : List Char, (wordsOfChunk .none [] chunk).flatten = chunk := by
    rintro (_ | ⟨c, rest⟩)
    · rfl
    · exact flatten_wordsOfChunk (by simp)
  have hwords : (words s).flatten = (chunksAfter [] s.toList).flatten := by
    simp [words, List.flatMap, List.flatten_flatten, Function.comp_def, hchunk]
  rw [hwords, flatten_chunksAfter, List.nil_append]

/-- A character of a word of a name is a letter or a digit. -/
theorem isAlphanum_of_mem_words (hs : NameChars s) {w : List Char} (hw : w ∈ words s) {c : Char}
    (hc : c ∈ w) : c.isAlphanum = true := by
  have hmem : c ∈ s.toList.filter isAlphanumeric :=
    flatten_words s ▸ List.mem_flatten.mpr ⟨w, hw, hc⟩
  obtain ⟨hmem, halphanumeric⟩ := List.mem_filter.mp hmem
  rcases Bool.or_eq_true _ _ ▸ hs c hmem with h | h
  · exact h
  · rw [of_decide_eq_true h] at halphanumeric
    exact absurd halphanumeric (by decide)

/-! ### Letter case -/

/-- What becomes of the letters and digits of names: they stay letters and digits. -/
theorem ascii_case : ∀ n < 128, (Char.ofNat n).isAlphanum = true →
    lowerChars (Char.ofNat n) = [(Char.ofNat n).toLower] ∧
      upperChars (Char.ofNat n) = [(Char.ofNat n).toUpper] ∧
      (Char.ofNat n).toLower.isAlphanum = true ∧ (Char.ofNat n).toUpper.isAlphanum = true ∧
      (Char.ofNat n).toLower.isAlpha = (Char.ofNat n).isAlpha := by
  decide +kernel

/-- The letters and digits of names are characters of ASCII. -/
theorem toNat_lt_of_isAlphanum {c : Char} (h : c.isAlphanum = true) : c.toNat < 128 := by
  have hranges : (('A'.val ≤ c.val ∧ c.val ≤ 'Z'.val : Bool) || ('a'.val ≤ c.val && c.val ≤ 'z'.val) ||
      ('0'.val ≤ c.val && c.val ≤ '9'.val)) = true := h
  simp only [Bool.or_eq_true, Bool.and_eq_true, decide_eq_true_eq, UInt32.le_iff_toNat_le]
    at hranges
  have hcapital : 'Z'.val.toNat < 128 := by decide
  have hsmall : 'z'.val.toNat < 128 := by decide
  have hdigit : '9'.val.toNat < 128 := by decide
  rw [Char.toNat]
  omega

/-- A letter or digit has small and capital forms that are letters or digits. -/
theorem case_of_isAlphanum {c : Char} (h : c.isAlphanum = true) :
    lowerChars c = [c.toLower] ∧ upperChars c = [c.toUpper] ∧ c.toLower.isAlphanum = true ∧
      c.toUpper.isAlphanum = true ∧ c.toLower.isAlpha = c.isAlpha := by
  have hall := ascii_case c.toNat (toNat_lt_of_isAlphanum h)
  rw [Char.ofNat_toNat] at hall
  exact hall h

/-- A word of letters and digits is put into small letters one by one. -/
theorem lowerWord_eq_map {w : List Char} (hw : ∀ c ∈ w, c.isAlphanum = true) :
    lowerWord w = w.map Char.toLower := by
  fun_induction lowerWord w with
  | case1 => rfl
  | case2 => exact absurd (hw _ (List.mem_singleton_self _)) (by decide)
  | case3 c _ => exact (case_of_isAlphanum (hw c (List.mem_singleton_self c))).1
  | case4 c next rest ih =>
      obtain ⟨hc, hrest⟩ := List.forall_mem_cons.mp hw
      rw [(case_of_isAlphanum hc).1, ih hrest]
      rfl

/-- A word of letters and digits in small letters is one. -/
theorem isAlphanum_of_mem_lowerWord {w : List Char} (hw : ∀ c ∈ w, c.isAlphanum = true) :
    ∀ x ∈ lowerWord w, x.isAlphanum = true := by
  rw [lowerWord_eq_map hw]
  exact List.forall_mem_map.mpr fun c hc => (case_of_isAlphanum (hw c hc)).2.2.1

/-- A word of letters and digits with a capital first letter is one. -/
theorem isAlphanum_of_mem_titleWord {w : List Char} (hw : ∀ c ∈ w, c.isAlphanum = true) :
    ∀ x ∈ titleWord w, x.isAlphanum = true := by
  cases w with
  | nil => simp [titleWord]
  | cons c rest =>
      obtain ⟨hc, hrest⟩ := List.forall_mem_cons.mp hw
      obtain ⟨-, hupper, -, hcapital, -⟩ := case_of_isAlphanum hc
      rw [titleWord, hupper]
      exact List.forall_mem_append.mpr
        ⟨List.forall_mem_singleton.mpr hcapital, isAlphanum_of_mem_lowerWord hrest⟩

/-! ### Camel case -/

/-- The capital camel case form of a text of the characters of names is made of letters and digits. -/
theorem nameChars_upperCamelCase (hs : NameChars s) : NameChars (upperCamelCase s) := by
  intro x hx
  rw [upperCamelCase, String.toList_ofList] at hx
  obtain ⟨w, hw, hx⟩ := List.mem_flatMap.mp hx
  have hx := isAlphanum_of_mem_titleWord (fun c hc => isAlphanum_of_mem_words hs hw hc) x hx
  simp [isNameChar, hx]

/-- Whether the first letter or digit of a name is a letter. -/
def startsWithLetter (s : String) : Bool := (s.toList.find? Char.isAlphanum).any Char.isAlpha

/-- The first letter or digit of a text is a letter. -/
theorem startsWithLetter_iff : startsWithLetter s = true ↔
    ∃ c, s.toList.find? Char.isAlphanum = some c ∧ c.isAlpha = true :=
  Option.any_eq_true _ _

/-- The camel case form of a text of the characters of names is made of letters and digits, and begins
with its first letter or digit. -/
theorem lowerCamelCase_spec (hs : NameChars s) :
    (∀ x ∈ (lowerCamelCase s).toList, x.isAlphanum = true) ∧
      (lowerCamelCase s).toList.head? = (s.toList.find? Char.isAlphanum).map Char.toLower := by
  -- among the characters of names, the letters and digits are what words are made of
  have hfind : s.toList.find? Char.isAlphanum = (words s).flatten.head? := by
    rw [flatten_words, ← List.head?_filter]
    refine congrArg List.head? (List.filter_congr fun c hc => ?_)
    rcases Bool.or_eq_true _ _ ▸ hs c hc with h | h
    · rw [isAlphanumeric, if_pos (toNat_lt_of_isAlphanum h)]
    · rw [of_decide_eq_true h]
      decide
  have hword : ∀ w ∈ words s, ∀ c ∈ w, c.isAlphanum = true :=
    fun w hw c hc => isAlphanum_of_mem_words hs hw hc
  rw [hfind, lowerCamelCase, String.toList_ofList]
  cases hwords : words s with
  | nil => simp
  | cons first rest =>
      rw [hwords] at hword
      obtain ⟨hfirst, hrest⟩ := List.forall_mem_cons.mp hword
      obtain ⟨hne, -⟩ := isWord_of_mem_words (hwords ▸ List.mem_cons_self : first ∈ words s)
      obtain ⟨c, cs, rfl⟩ := List.exists_cons_of_ne_nil hne
      refine ⟨List.forall_mem_append.mpr ⟨isAlphanum_of_mem_lowerWord hfirst, ?_⟩, ?_⟩
      · intro x hx
        obtain ⟨w, hw, hx⟩ := List.mem_flatMap.mp hx
        exact isAlphanum_of_mem_titleWord (hrest w hw) x hx
      · have hlower := lowerWord_eq_map hfirst
        simp [hlower]

/-- **The camel case form of a name is a name** exactly when the first letter or digit of the name is a
letter. -/
theorem isName_lowerCamelCase_iff (hs : NameChars s) :
    isName (lowerCamelCase s) = true ↔ startsWithLetter s = true := by
  obtain ⟨halphanum, hhead⟩ := lowerCamelCase_spec hs
  have hchars : NameChars (lowerCamelCase s) := fun x hx => by simp [isNameChar, halphanum x hx]
  rw [isName_iff, and_iff_left hchars, hhead, startsWithLetter]
  cases hfind : s.toList.find? Char.isAlphanum with
  | none => simp
  | some c =>
      have hc := case_of_isAlphanum (List.find?_some hfind)
      have hunderscore : c.toLower ≠ '_' := fun h => by
        have hlower := hc.2.2.1
        rw [h] at hlower
        exact absurd hlower (by decide)
      simp [isNameStart, hc.2.2.2.2, hunderscore]

/-! ### Plurals -/

/-- The plural of a text of the characters of names is one. -/
theorem nameChars_pluralize (hs : NameChars s) : NameChars (pluralize s) := by
  have hdropLast : NameChars (String.ofList s.toList.dropLast) := by
    rw [NameChars, String.toList_ofList]
    exact fun c hc => hs c (List.dropLast_subset _ hc)
  simp only [pluralize]
  split
  · exact nameChars_append.mpr ⟨hdropLast, by decide⟩
  · split <;> exact nameChars_append.mpr ⟨hs, by decide⟩

/-- More characters leave the first letter or digit where it is. -/
theorem startsWithLetter_append (hs : startsWithLetter s = true) :
    startsWithLetter (s ++ t) = true := by
  obtain ⟨c, hfind, hc⟩ := startsWithLetter_iff.mp hs
  refine startsWithLetter_iff.mpr ⟨c, ?_, hc⟩
  rw [String.toList_append, List.find?_append, hfind, Option.some_or]

/-- The plural of a name whose first letter or digit is a letter is such a name. Where the ending
replaces the only letter, it begins with one. -/
theorem startsWithLetter_pluralize (hs : startsWithLetter s = true) :
    startsWithLetter (pluralize s) = true := by
  simp only [pluralize]
  split
  · cases hfind : s.toList.dropLast.find? Char.isAlphanum with
    | none =>
        refine startsWithLetter_iff.mpr ⟨'i', ?_, by decide⟩
        rw [String.toList_append, String.toList_ofList, List.find?_append, hfind]
        rfl
    | some c =>
        obtain ⟨c', hfind', hc'⟩ := startsWithLetter_iff.mp hs
        have hne : s.toList ≠ [] := fun h => by simp [h] at hfind
        rw [← List.dropLast_concat_getLast hne, List.find?_append, hfind] at hfind'
        obtain rfl := Option.some.inj hfind'
        refine startsWithLetter_append (startsWithLetter_iff.mpr ⟨c, ?_, hc'⟩)
        rw [String.toList_ofList, hfind]
  · split <;> exact startsWithLetter_append hs

end Text

end DataModel
