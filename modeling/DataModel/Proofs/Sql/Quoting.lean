import DataModel.Sql.Quoting
import Mathlib.Data.List.Basic
import Mathlib.Data.List.TakeDrop

/-!
# Reading quoted texts

How the database reads what stands between quotes, and that it reads what was quoted. A quoted text
ends at the first quote that is not doubled. In a string literal a backslash starts an escape; in
an identifier it is a character like any other.

The readers take the text that is left and return what is left after the quoted text. What follows
a quoted text matters only by its first character: one more quote would continue it.

## Main results

* `Sql.quotedTail_flatMap`: a text whose characters are escaped one by one is read back up to the
  quote after it.
* `Sql.quoting_lossless`: **string literals, identifiers and lists of identifiers end where their
  quotes end and are read back as the texts they were made from**.
-/

namespace DataModel.Sql

/-! ### The readers -/

/-- The quote of an identifier. -/
def backtick : Char := Char.ofNat 0x60

/-- The characters that a backslash and the character `c` after it stand for. The wildcards of
patterns keep their backslash; a character that has no meaning of its own here stands for itself. -/
def unescape (c : Char) : List Char :=
  if c = '0' then [Char.ofNat 0]
  else if c = 'b' then [Char.ofNat 8]
  else if c = 'n' then ['\n']
  else if c = 'r' then ['\r']
  else if c = 't' then ['\t']
  else if c = 'Z' then [Char.ofNat 26]
  else if c = '%' || c = '_' then ['\\', c]
  else [c]

/-- The characters up to the first quote that is not doubled, and the text after that quote. -/
def quotedTail (quote : Char) (escapes : Bool) : List Char → Option (List Char × List Char)
  | [] => none
  | [c] => if c = quote then some ([], []) else none
  | c :: d :: rest =>
    if c = quote then
      if d = quote then (quotedTail quote escapes rest).map fun (s, r) => (quote :: s, r)
      else some ([], d :: rest)
    else if escapes && c = '\\' then
      (quotedTail quote escapes rest).map fun (s, r) => (unescape d ++ s, r)
    else (quotedTail quote escapes (d :: rest)).map fun (s, r) => (c :: s, r)

/-- A text that starts with a quote. -/
def quoted? (quote : Char) (escapes : Bool) : List Char → Option (String × List Char)
  | [] => none
  | c :: rest =>
    if c = quote then
      (quotedTail quote escapes rest).map fun (s, r) => (String.ofList s, r)
    else none

/-- Reads a string literal. -/
def stringLiteral? (cs : List Char) : Option (String × List Char) :=
  quoted? '\'' true cs

/-- Reads a quoted identifier. -/
def identifier? (cs : List Char) : Option (String × List Char) :=
  quoted? backtick false cs

/-! ### Ends of quoted texts -/

/-- Nothing is read without a character being taken. -/
theorem length_lt_of_quotedTail {quote : Char} {escapes : Bool} {cs s rest : List Char}
    (h : quotedTail quote escapes cs = some (s, rest)) : rest.length < cs.length := by
  fun_induction quotedTail quote escapes cs generalizing s <;>
    grind [Option.map_eq_some_iff]

/-- An identifier takes characters. -/
theorem length_lt_of_identifier? {cs rest : List Char} {name : String}
    (h : identifier? cs = some (name, rest)) : rest.length < cs.length := by
  unfold identifier? at h
  match cs with
  | [] => simp [quoted?] at h
  | c :: cs =>
    simp only [quoted?] at h
    split at h
    · obtain ⟨⟨s, rest'⟩, htail, hpair⟩ := Option.map_eq_some_iff.mp h
      obtain ⟨-, rfl⟩ := Prod.mk.inj hpair
      have hless := length_lt_of_quotedTail htail
      simp only [List.length_cons]
      omega
    · nomatch h

/-- Reads identifiers with a comma and a space between them, at least one. -/
def someIdentifiers? (cs : List Char) : Option (List String × List Char) :=
  match _hfirst : identifier? cs with
  | none => none
  | some (name, ',' :: ' ' :: more) =>
    (someIdentifiers? more).map fun (names, r) => (name :: names, r)
  | some (name, rest) => some ([name], rest)
termination_by cs.length
decreasing_by
  have hless := length_lt_of_identifier? _hfirst
  simp only [List.length_cons] at hless
  omega

/-- Reads identifiers with a comma and a space between them. There are none where the text does not
start with the quote of one. -/
def identifiers? (cs : List Char) : Option (List String × List Char) :=
  if cs.head? = some backtick then someIdentifiers? cs else some ([], cs)

/-! ### Reading back -/

/-- A character other than a quote and the start of an escape stands for itself. -/
theorem quotedTail_cons {quote c : Char} {escapes : Bool} (hquote : c ≠ quote)
    (hescape : (escapes && decide (c = '\\')) = false) (cs : List Char) :
    quotedTail quote escapes (c :: cs) =
      (quotedTail quote escapes cs).map fun (s, r) => (c :: s, r) := by
  cases cs with
  | nil => simp [quotedTail, hquote]
  | cons d cs => rw [quotedTail, if_neg hquote, hescape, if_neg Bool.false_ne_true]

/-- A quote with no second one after it ends the text. -/
theorem quotedTail_quote (quote : Char) (escapes : Bool) {rest : List Char}
    (hrest : rest.head? ≠ some quote) :
    quotedTail quote escapes (quote :: rest) = some ([], rest) := by
  match rest with
  | [] => simp [quotedTail]
  | d :: more =>
    have hd : d ≠ quote := fun heq => hrest (congrArg some heq)
    simp [quotedTail, hd]

/-- **A text whose characters are escaped one by one is read back up to the quote after it**, if
each character by itself is. -/
theorem quotedTail_flatMap {quote : Char} {escapes : Bool} {escape : Char → List Char}
    (hescape : ∀ c cs, quotedTail quote escapes (escape c ++ cs) =
      (quotedTail quote escapes cs).map fun (s, r) => (c :: s, r))
    (s : List Char) {rest : List Char} (hrest : rest.head? ≠ some quote) :
    quotedTail quote escapes (s.flatMap escape ++ quote :: rest) = some (s, rest) := by
  induction s with
  | nil => exact quotedTail_quote quote escapes hrest
  | cons c s ih =>
    rw [List.flatMap_cons, List.append_assoc, hescape, ih]
    rfl

/-- However a character stands in a string literal, it is read as itself. -/
theorem quotedTail_escapeInLiteral (c : Char) (cs : List Char) :
    quotedTail '\'' true (escapeInLiteral c ++ cs) =
      (quotedTail '\'' true cs).map fun (s, r) => (c :: s, r) := by
  unfold escapeInLiteral
  -- six characters have an escape of their own
  iterate 6
    split
    case isTrue h => subst h; rfl
  case isFalse hbackslash hquote _ _ _ _ =>
    exact quotedTail_cons hquote (by simpa using hbackslash) cs

/-- However a character stands in an identifier, it is read as itself. -/
theorem quotedTail_escapeInIdentifier (c : Char) (cs : List Char) :
    quotedTail backtick false (escapeInIdentifier c ++ cs) =
      (quotedTail backtick false cs).map fun (s, r) => (c :: s, r) := by
  unfold escapeInIdentifier
  split
  case isTrue h => subst h; rfl
  case isFalse h => exact quotedTail_cons h (by simp) cs

/-- A string literal is read back and ends with its closing quote. -/
theorem stringLiteral?_quoteLiteral (s : String) {rest : List Char}
    (hrest : rest.head? ≠ some '\'') :
    stringLiteral? ((quoteLiteral s).toList ++ rest) = some (s, rest) := by
  have htail := quotedTail_flatMap quotedTail_escapeInLiteral s.toList hrest
  simp [stringLiteral?, quoted?, quoteLiteral, htail]

/-- An identifier is read back and ends with its closing quote. -/
theorem identifier?_quoteIdentifier (name : String) {rest : List Char}
    (hrest : rest.head? ≠ some backtick) :
    identifier? ((quoteIdentifier name).toList ++ rest) = some (name, rest) := by
  have htail := quotedTail_flatMap quotedTail_escapeInIdentifier name.toList hrest
  rw [backtick] at htail hrest
  simp [identifier?, quoted?, quoteIdentifier, backtick, htail]

/-! ### Lists of identifiers -/

/-- After a comma and a space the identifiers go on. -/
theorem someIdentifiers?_of_separator {cs more : List Char} {name : String}
    (hfirst : identifier? cs = some (name, ',' :: ' ' :: more)) :
    someIdentifiers? cs = (someIdentifiers? more).map fun (names, r) => (name :: names, r) := by
  rw [someIdentifiers?]
  split
  all_goals simp_all

/-- Without a comma and a space the identifiers end. -/
theorem someIdentifiers?_of_end {cs rest : List Char} {name : String}
    (hfirst : identifier? cs = some (name, rest)) (hrest : ¬ [',', ' '] <+: rest) :
    someIdentifiers? cs = some ([name], rest) := by
  rw [someIdentifiers?]
  split
  case h_1 heq => simp [hfirst] at heq
  case h_2 heq =>
    obtain ⟨-, rfl⟩ : _ ∧ rest = _ := by simpa [hfirst] using heq
    simp at hrest
  case h_3 heq =>
    obtain ⟨rfl, rfl⟩ : name = _ ∧ rest = _ := by simpa [hfirst] using heq
    rfl

/-- A quoted identifier starts with its quote. -/
theorem head?_quoteIdentifier (name : String) :
    (quoteIdentifier name).toList.head? = some backtick := by
  simp [quoteIdentifier, backtick]

/-- The text of quoted identifiers, from the first one on. -/
theorem toList_quoteIdentifiers_cons (name next : String) (names : List String) :
    (quoteIdentifiers (name :: next :: names)).toList =
      (quoteIdentifier name).toList ++ ',' :: ' ' :: (quoteIdentifiers (next :: names)).toList := by
  simp [quoteIdentifiers, String.intercalate_cons_cons]

/-- Identifiers are read back one after the other. -/
theorem someIdentifiers?_quoteIdentifiers (name : String) (names : List String) {rest : List Char}
    (hquote : rest.head? ≠ some backtick) (hseparator : ¬ [',', ' '] <+: rest) :
    someIdentifiers? ((quoteIdentifiers (name :: names)).toList ++ rest) =
      some (name :: names, rest) := by
  induction names generalizing name with
  | nil =>
    have hfirst := identifier?_quoteIdentifier name hquote
    rw [show quoteIdentifiers [name] = quoteIdentifier name by simp [quoteIdentifiers]]
    exact someIdentifiers?_of_end hfirst hseparator
  | cons next names ih =>
    rw [toList_quoteIdentifiers_cons, List.append_assoc, List.cons_append, List.cons_append]
    have hcomma : (',' :: ' ' :: ((quoteIdentifiers (next :: names)).toList ++ rest)).head? ≠
        some backtick := by
      simp [backtick]
    rw [someIdentifiers?_of_separator (identifier?_quoteIdentifier name hcomma), ih next]
    rfl

/-- A list of identifiers is read back, the empty one too. -/
theorem identifiers?_quoteIdentifiers (names : List String) {rest : List Char}
    (hquote : rest.head? ≠ some backtick) (hseparator : ¬ [',', ' '] <+: rest) :
    identifiers? ((quoteIdentifiers names).toList ++ rest) = some (names, rest) := by
  cases names with
  | nil => simp [identifiers?, quoteIdentifiers, hquote]
  | cons name names =>
    have hhead : ((quoteIdentifiers (name :: names)).toList ++ rest).head? = some backtick := by
      cases names with
      | nil => simp [quoteIdentifiers, head?_quoteIdentifier]
      | cons next names => simp [toList_quoteIdentifiers_cons, head?_quoteIdentifier]
    rw [identifiers?, if_pos hhead]
    exact someIdentifiers?_quoteIdentifiers name names hquote hseparator

/-- **Quoting is lossless.** A string literal and an identifier are read up to their closing quote,
as the text they were made from, before every text that does not start with the quote itself. A
list of identifiers is read as the list of their names, up to a text that would not continue it. -/
theorem quoting_lossless :
    (∀ (s : String) (rest : List Char), rest.head? ≠ some '\'' →
      stringLiteral? ((quoteLiteral s).toList ++ rest) = some (s, rest)) ∧
    (∀ (name : String) (rest : List Char), rest.head? ≠ some backtick →
      identifier? ((quoteIdentifier name).toList ++ rest) = some (name, rest)) ∧
    ∀ (names : List String) (rest : List Char), rest.head? ≠ some backtick →
      ¬ [',', ' '] <+: rest →
      identifiers? ((quoteIdentifiers names).toList ++ rest) = some (names, rest) :=
  ⟨fun s _ hrest => stringLiteral?_quoteLiteral s hrest,
    fun name _ hrest => identifier?_quoteIdentifier name hrest,
    fun names _ hquote hseparator => identifiers?_quoteIdentifiers names hquote hseparator⟩

/-- A literal that ends in a backslash, an identifier with quotes and a name that contains the
separator between two names do not end early. -/
theorem quoting_lossless_awkward :
    stringLiteral? ((quoteLiteral "it's \\").toList ++ [',']) = some ("it's \\", [',']) ∧
    identifier? ((quoteIdentifier "\x60a\x60\x60").toList ++ [' ']) =
      some ("\x60a\x60\x60", [' ']) ∧
    identifiers? ((quoteIdentifiers ["a\x60, \x60b", "", "c"]).toList ++ []) =
      some (["a\x60, \x60b", "", "c"], []) :=
  ⟨quoting_lossless.1 "it's \\" [','] (by decide),
    quoting_lossless.2.1 "\x60a\x60\x60" [' '] (by decide),
    quoting_lossless.2.2 ["a\x60, \x60b", "", "c"] [] (by decide) (by decide)⟩

end DataModel.Sql
