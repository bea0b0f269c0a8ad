import DataModel.Naming
import DataModel.Proofs.Text.SmallLetters

/-!
# Identifiers of one spelling

Snake case forgets how an identifier marks its words: `BookReview`, `bookReview` and `book_review`
all become `book_review`. It forgets nothing else. The words are alphanumeric and not empty, and so
are their small forms, so the underscores show where they were joined.

## Main results

* `words_alphanumeric`: the words of an identifier are not empty and alphanumeric.
* `snakeCase_eq_iff`: **two identifiers have one snake case form exactly when they have the same
  words up to letter case.**
* `isSmall_of_mem_snakeCase`: snake case is in small letters throughout.
-/

namespace DataModel.Text

/-! ### Words -/

/-- A word of an identifier: alphanumeric characters, at least one. -/
def IsWord (w : List Char) : Prop := w ≠ [] ∧ ∀ c ∈ w, isAlphanumeric c = true

/-- The words of a chunk are words, where what has been read of the first one is alphanumeric and
not empty once a capital has been read. -/
theorem isWord_of_mem_wordsOfChunk {last : LastCase} {word cs : List Char}
    (hword : ∀ c ∈ word, isAlphanumeric c = true) (hlast : last = .upper → word ≠ [])
    (hcs : ∀ c ∈ cs, isAlphanumeric c = true) :
    ∀ w ∈ wordsOfChunk last word cs, IsWord w := by
  have hextend : ∀ {word : List Char} {c}, (∀ x ∈ word, isAlphanumeric x = true) →
      isAlphanumeric c = true → ∀ x ∈ word ++ [c], isAlphanumeric x = true := fun hword hc =>
    List.forall_mem_append.mpr ⟨hword, List.forall_mem_singleton.mpr hc⟩
  fun_induction wordsOfChunk last word cs with
  | case1 => simp
  | case2 last word c =>
      obtain ⟨hc, -⟩ := List.forall_mem_cons.mp hcs
      exact List.forall_mem_singleton.mpr ⟨by simp, hextend hword hc⟩
  | case3 last word c next rest _ ih =>
      obtain ⟨hc, hrest⟩ := List.forall_mem_cons.mp hcs
      exact List.forall_mem_cons.mpr
        ⟨⟨by simp, hextend hword hc⟩, ih (by simp) (by simp) hrest⟩
  | case4 last word c next rest _ hupper ih =>
      obtain ⟨hc, hrest⟩ := List.forall_mem_cons.mp hcs
      have hcapital : last = .upper := by
        simp only [Bool.and_eq_true, decide_eq_true_eq] at hupper
        exact hupper.1.1
      exact List.forall_mem_cons.mpr
        ⟨⟨hlast hcapital, hword⟩, ih (List.forall_mem_singleton.mpr hc) nofun hrest⟩
  | case5 last word c next rest _ _ ih =>
      obtain ⟨hc, hrest⟩ := List.forall_mem_cons.mp hcs
      exact ih (hextend hword hc) (by simp) hrest

/-- The chunks of a text are alphanumeric. -/
theorem alphanumeric_of_mem_chunksAfter {chunk cs : List Char}
    (hchunk : ∀ c ∈ chunk, isAlphanumeric c = true) :
    ∀ w ∈ chunksAfter chunk cs, ∀ c ∈ w, isAlphanumeric c = true := by
  fun_induction chunksAfter chunk cs with
  | case1 chunk => exact List.forall_mem_singleton.mpr hchunk
  | case2 chunk c rest hc ih =>
      exact ih (List.forall_mem_append.mpr ⟨hchunk, List.forall_mem_singleton.mpr hc⟩)
  | case3 chunk c rest _ ih => exact List.forall_mem_cons.mpr ⟨hchunk, ih (by simp)⟩

/-- **The words of an identifier** are words. -/
theorem isWord_of_mem_words {s : String} {w : List Char} (hw : w ∈ words s) : IsWord w := by
  obtain ⟨chunk, hchunk, hw⟩ := List.mem_flatMap.mp hw
  exact isWord_of_mem_wordsOfChunk (by simp) (by simp)
    (alphanumeric_of_mem_chunksAfter (by simp) chunk hchunk) w hw

/-! ### Words in small letters -/

/-- The final form of sigma is in small letters. -/
theorem isSmall_finalSigma : IsSmall finalSigma := by
  decide +kernel

/-- Every character of a word in small letters comes from one of the word, or is the final form of
sigma. -/
theorem of_mem_lowerWord {w : List Char} {x : Char} (hx : x ∈ lowerWord w) :
    x = finalSigma ∨ ∃ c ∈ w, x ∈ lowerChars c := by
  fun_induction lowerWord w with
  | case1 => simp at hx
  | case2 => exact .inl (List.mem_singleton.mp hx)
  | case3 c _ => exact .inr ⟨c, List.mem_singleton_self c, hx⟩
  | case4 c next rest ih =>
      rcases List.mem_append.mp hx with hx | hx
      · exact .inr ⟨c, List.mem_cons_self, hx⟩
      · exact (ih hx).imp_right fun ⟨c', hc', hx⟩ => ⟨c', List.mem_cons_of_mem c hc', hx⟩

/-- A word in small letters is in small letters. -/
theorem isSmall_of_mem_lowerWord {w : List Char} {x : Char} (hx : x ∈ lowerWord w) : IsSmall x := by
  rcases of_mem_lowerWord hx with rfl | ⟨c, -, hx⟩
  · exact isSmall_finalSigma
  · exact (isSmall_of_mem_lowerChars hx).1

/-- A word in small letters has no underscore. -/
theorem IsWord.underscore_notMem {w : List Char} (hw : IsWord w) : '_' ∉ lowerWord w := by
  intro hx
  rcases of_mem_lowerWord hx with hsigma | ⟨c, hc, hx⟩
  · exact absurd hsigma (by decide)
  · have hunderscore : isAlphanumeric '_' = false := by decide
    obtain rfl := (isSmall_of_mem_lowerChars hx).2 rfl
    exact Bool.false_ne_true (hunderscore.symm.trans (hw.2 _ hc))

/-- A word in small letters is not empty. -/
theorem IsWord.lowerWord_ne_nil {w : List Char} (hw : IsWord w) : lowerWord w ≠ [] := by
  obtain ⟨hne, -⟩ := hw
  fun_cases lowerWord w with
  | case1 => exact absurd rfl hne
  | case2 => simp
  | case3 c _ => exact lowerChars_ne_nil c
  | case4 c next rest => simp [lowerChars_ne_nil c]

/-! ### Snake case -/

/-- The words of an identifier in small letters. -/
def lowerWords (s : String) : List (List Char) := (words s).map lowerWord

/-- The identifiers have the same words up to letter case. -/
def SameWords (s t : String) : Prop := lowerWords s = lowerWords t

instance (s t : String) : Decidable (SameWords s t) :=
  inferInstanceAs (Decidable (lowerWords s = lowerWords t))

/-- Words in small letters are not empty and have no underscores. -/
theorem of_mem_lowerWords {s : String} {w : List Char} (hw : w ∈ lowerWords s) :
    w ≠ [] ∧ '_' ∉ w := by
  obtain ⟨v, hv, rfl⟩ := List.mem_map.mp hw
  have hword := isWord_of_mem_words hv
  exact ⟨hword.lowerWord_ne_nil, hword.underscore_notMem⟩

/-- Where there are words, splitting at the underscores gives them back. -/
theorem splitOn_snakeCase {s : String} (hne : lowerWords s ≠ []) :
    (snakeCase s).toList.splitOn '_' = lowerWords s := by
  rw [snakeCase, String.toList_ofList]
  exact List.splitOn_intercalate '_' (fun w hw => (of_mem_lowerWords hw).2) hne

/-- Where there are no words, snake case is empty, and nowhere else. -/
theorem snakeCase_eq_empty_iff {s : String} : snakeCase s = "" ↔ lowerWords s = [] := by
  rw [← String.toList_inj, snakeCase, String.toList_ofList, ← lowerWords]
  cases hwords : lowerWords s with
  | nil => simp
  | cons w rest =>
      have hne : w ≠ [] := (of_mem_lowerWords (hwords ▸ List.mem_cons_self)).1
      cases rest <;> simp [hne, List.intercalate_cons_cons]

/-- **Two identifiers have one snake case form** exactly when they have the same words up to letter
case. -/
theorem snakeCase_eq_iff {s t : String} : snakeCase s = snakeCase t ↔ SameWords s t := by
  rw [SameWords]
  constructor
  · intro h
    by_cases hs : lowerWords s = []
    · rw [hs, snakeCase_eq_empty_iff.mp (h.symm.trans (snakeCase_eq_empty_iff.mpr hs))]
    · have ht : lowerWords t ≠ [] := fun ht =>
        hs (snakeCase_eq_empty_iff.mp (h.trans (snakeCase_eq_empty_iff.mpr ht)))
      rw [← splitOn_snakeCase hs, ← splitOn_snakeCase ht, h]
  · intro h
    unfold lowerWords at h
    rw [snakeCase, snakeCase, h]

/-- Joined words have the characters of the words, and underscores. -/
theorem of_mem_intercalate {ws : List (List Char)} {c : Char} (hc : c ∈ ['_'].intercalate ws) :
    c = '_' ∨ ∃ w ∈ ws, c ∈ w := by
  induction ws with
  | nil => simp at hc
  | cons w rest ih =>
      by_cases hrest : rest = []
      · subst hrest
        exact .inr ⟨w, List.mem_cons_self, by simpa using hc⟩
      · rw [List.intercalate_cons_of_ne_nil hrest, List.mem_append, List.mem_append] at hc
        rcases hc with (hc | hc) | hc
        · exact .inr ⟨w, List.mem_cons_self, hc⟩
        · exact .inl (List.mem_singleton.mp hc)
        · exact (ih hc).imp_right fun ⟨v, hv, hc⟩ => ⟨v, List.mem_cons_of_mem w hv, hc⟩

/-- Snake case is in small letters throughout. -/
theorem isSmall_of_mem_snakeCase {s : String} {c : Char} (hc : c ∈ (snakeCase s).toList) :
    IsSmall c := by
  rw [snakeCase, String.toList_ofList] at hc
  rcases of_mem_intercalate hc with rfl | ⟨w, hw, hc⟩
  · decide
  · obtain ⟨v, -, rfl⟩ := List.mem_map.mp hw
    exact isSmall_of_mem_lowerWord hc

end DataModel.Text

/-! ### Tables and reference columns -/

namespace DataModel

open Text

/-- Two types share a table name exactly when their plurals have the same words. -/
theorem tableName_eq_iff {s t : String} :
    tableName s = tableName t ↔ SameWords (pluralize s) (pluralize t) :=
  snakeCase_eq_iff

/-- Two reference columns have one name exactly when the names that they come from have the same
words. -/
theorem referenceColumn_eq_iff {s t : String} :
    referenceColumn s = referenceColumn t ↔ SameWords s t := by
  rw [referenceColumn, referenceColumn, String.append_left_inj, snakeCase_eq_iff]

/-- The name of the table of a type is in small letters. -/
theorem isSmall_of_mem_tableName {s : String} {c : Char} (hc : c ∈ (tableName s).toList) :
    IsSmall c :=
  isSmall_of_mem_snakeCase hc

/-- The name of a reference column is in small letters. -/
theorem isSmall_of_mem_referenceColumn {s : String} {c : Char}
    (hc : c ∈ (referenceColumn s).toList) : IsSmall c := by
  have hending : ∀ c ∈ "_id".toList, IsSmall c := forall_mem_of_all (by decide)
  rw [referenceColumn, String.toList_append, List.mem_append] at hc
  rcases hc with hc | hc
  · exact isSmall_of_mem_snakeCase hc
  · exact hending c hc

end DataModel
