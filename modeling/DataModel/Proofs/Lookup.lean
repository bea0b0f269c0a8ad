import Mathlib.Data.List.Nodup
import Mathlib.Data.List.Pairwise

/-!
# Look-ups by name

Types, fields and relations are found by the first entry of a list that has the name. Where the
names differ from each other the first one is the only one, and a look-up is membership.

## Main results

* `List.find?_name_eq_some_iff`: a look-up among distinct names finds exactly the entry of the name,
  `List.findIdx?_name_eq_some_iff` its position.
* `List.find?_name_eq_some_iff_isFirst`, `List.lookup_eq_some_iff_isFirst`: any look-up finds the
  first entry of a name or key.
* `List.nodup_filterMap_iff`: optional values are distinct when no two entries have the same one.
* `List.lookup_eq_none_iff_forall`, `List.mem_of_lookup_eq_some`: a key is not found when no entry has
  it, and what is found is an entry.
* `List.lookup_put_self`, `List.lookup_put_of_ne`: an entry under a new key comes last, one under a
  key that is there takes its place.
-/

namespace List

variable {α β : Type}

/-- Entries with distinct names are equal when their names are. -/
theorem eq_of_map_nodup {name : α → β} {l : List α} (h : (l.map name).Nodup) {a b : α} (ha : a ∈ l)
    (hb : b ∈ l) (hab : name a = name b) : a = b :=
  inj_on_of_nodup_map h ha hb hab

/-- **A look-up among distinct names** finds exactly the entry of that name. -/
theorem find?_name_eq_some_iff {name : α → String} {l : List α} (h : (l.map name).Nodup)
    {n : String} {a : α} : l.find? (fun x => name x == n) = some a ↔ a ∈ l ∧ name a = n := by
  constructor
  · intro hfind
    exact ⟨mem_of_find?_eq_some hfind, by simpa using find?_some hfind⟩
  · rintro ⟨ha, rfl⟩
    cases hfind : l.find? (fun x => name x == name a) with
    | none => exact absurd (beq_self_eq_true _) (find?_eq_none.mp hfind a ha)
    | some b =>
        have hb : name b = name a := by simpa using find?_some hfind
        exact congrArg some (eq_of_map_nodup h (mem_of_find?_eq_some hfind) ha hb)

/-- A look-up fails when no entry has the name. -/
theorem find?_name_eq_none_iff {name : α → String} {l : List α} {n : String} :
    l.find? (fun x => name x == n) = none ↔ ∀ a ∈ l, name a ≠ n := by
  simp [find?_eq_none]

/-- A search for the position of a name among distinct names finds where its entry stands. -/
theorem findIdx?_name_eq_some_iff {name : α → String} {l : List α} (h : (l.map name).Nodup)
    {n : String} {i : Nat} :
    l.findIdx? (fun x => name x == n) = some i ↔ ∃ a, l[i]? = some a ∧ name a = n := by
  rw [findIdx?_eq_some_iff_getElem]
  constructor
  · rintro ⟨hi, hname, -⟩
    exact ⟨l[i], getElem?_eq_getElem hi, by simpa using hname⟩
  · rintro ⟨a, ha, rfl⟩
    obtain ⟨hi, rfl⟩ := getElem?_eq_some_iff.mp ha
    refine ⟨hi, by simp, fun j hj hsame => Nat.ne_of_lt hj ?_⟩
    have hi' : i < (l.map name).length := by simpa using hi
    have hj' : j < (l.map name).length := Nat.lt_trans hj hi'
    have hnames : (l.map name)[j] = (l.map name)[i] := by simpa using hsame
    exact h.getElem_inj_iff.mp hnames

/-- The entry is the first one of the list that bears the name. -/
def IsFirst (name : α → String) (l : List α) (n : String) (a : α) : Prop :=
  ∃ before after, l = before ++ a :: after ∧ name a = n ∧ ∀ b ∈ before, name b ≠ n

/-- A look-up by name finds the first entry of that name. -/
theorem find?_name_eq_some_iff_isFirst {name : α → String} {l : List α} {n : String}
    {a : α} : l.find? (fun x => name x == n) = some a ↔ IsFirst name l n a := by
  simp only [List.find?_eq_some_iff_append, IsFirst, beq_iff_eq, Bool.not_eq_true',
    beq_eq_false_iff_ne]
  grind

/-- The value under a key is that of the first entry with that key. -/
theorem lookup_eq_some_iff_isFirst {l : List (String × β)} {k : String} {v : β} :
    l.lookup k = some v ↔ IsFirst Prod.fst l k (k, v) := by
  simp only [List.lookup_eq_some_iff, IsFirst, bne_iff_ne, ne_comm, true_and]

/-- The optional values of distinct entries do not repeat when no two entries have the same one. -/
theorem nodup_filterMap_iff {f : α → Option β} {l : List α} (h : l.Nodup) :
    (l.filterMap f).Nodup ↔ ∀ a ∈ l, ∀ b ∈ l, ∀ c, f a = some c → f b = some c → a = b := by
  rw [Nodup, pairwise_filterMap]
  constructor
  · intro hpairwise a ha b hb c hac hbc
    by_contra hne
    have : Std.Symm fun a b => ∀ c, f a = some c → ∀ c', f b = some c' → c ≠ c' :=
      ⟨fun _ _ hxy c hc c' hc' => (hxy c' hc' c hc).symm⟩
    exact hpairwise.forall ha hb hne c hac c hbc rfl
  · intro hinj
    refine h.imp_of_mem fun {a b} ha hb hne c hac c' hbc => ?_
    rintro rfl
    exact hne (hinj a ha b hb c hac hbc)

/-- A list without repetitions stays one when something new comes last. -/
theorem nodup_append_singleton_iff {l : List α} {a : α} :
    (l ++ [a]).Nodup ↔ a ∉ l ∧ l.Nodup := by
  rw [← concat_eq_append, nodup_concat]

/-- A key is not found when no entry has it. -/
theorem lookup_eq_none_iff_forall {l : List (String × β)} {k : String} :
    l.lookup k = none ↔ ∀ e ∈ l, e.1 ≠ k := by
  simp only [lookup_eq_none_iff, bne_iff_ne, ne_comm]

/-- What is found under a key is an entry of it. -/
theorem mem_of_lookup_eq_some {l : List (String × β)} {k : String} {v : β}
    (h : l.lookup k = some v) : (k, v) ∈ l := by
  obtain ⟨before, after, rfl, -⟩ := lookup_eq_some_iff.mp h
  simp

section Put

variable {κ : Type} [BEq κ] [LawfulBEq κ]

/-- Entries are replaced under their key only. -/
theorem lookup_map_replace (l : List (κ × β)) (k : κ) (v : β) (q : κ) :
    (l.map fun entry => if entry.1 == k then (k, v) else entry).lookup q =
      if q == k then (l.lookup k).map fun _ => v else l.lookup q := by
  induction l with
  | nil => simp
  | cons entry l ih =>
      obtain ⟨key, value⟩ := entry
      rw [map_cons, lookup_cons, lookup_cons, lookup_cons, ih]
      cases hkey : key == k with
      | true =>
          obtain rfl := eq_of_beq hkey
          cases hq : q == key <;> simp [hq]
      | false =>
          have hkey' : (k == key) = false := by simpa [BEq.comm] using hkey
          cases hq : q == k with
          | true =>
              obtain rfl := eq_of_beq hq
              simp [hkey']
          | false => simp

/-- An entry that is put under a key is found there. -/
theorem lookup_put_self (l : List (κ × β)) (k : κ) (v : β) :
    (if l.any (·.1 == k) then l.map fun entry => if entry.1 == k then (k, v) else entry
      else l ++ [(k, v)]).lookup k = some v := by
  split
  case isTrue h =>
    obtain ⟨entry, hentry, hkey⟩ := any_eq_true.mp h
    have hfound : l.lookup k ≠ none := by
      rw [Ne, lookup_eq_none_iff]
      exact fun hnone => by simpa [beq_iff_eq.mp hkey] using hnone entry hentry
    obtain ⟨old, hold⟩ := Option.ne_none_iff_exists'.mp hfound
    rw [lookup_map_replace, if_pos BEq.rfl, hold, Option.map_some]
  case isFalse h =>
    have hnone : l.lookup k = none := by
      rw [lookup_eq_none_iff]
      intro entry hentry
      have hne : ¬ k = entry.1 := fun heq => h (any_eq_true.mpr ⟨entry, hentry, by simp [heq]⟩)
      simpa using hne
    simp [lookup_append, hnone]

/-- An entry that is put under a key makes no difference under others. -/
theorem lookup_put_of_ne (l : List (κ × β)) {k q : κ} (v : β) (h : q ≠ k) :
    (if l.any (·.1 == k) then l.map fun entry => if entry.1 == k then (k, v) else entry
      else l ++ [(k, v)]).lookup q = l.lookup q := by
  have hne : (q == k) = false := by simpa using h
  split
  · rw [lookup_map_replace, hne, if_neg Bool.false_ne_true]
  · simp [lookup_append, lookup_cons, hne]

end Put

end List
