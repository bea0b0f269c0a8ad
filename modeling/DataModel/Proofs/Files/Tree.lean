import DataModel.Files.Tree
import DataModel.Proofs.Except
import DataModel.Proofs.Lookup

/-!
# What operations leave of a file tree

An operation on a tree says what it does at one place; the lemmas here say what that means for all
others. Two relations carry the argument. `Tree.KeepsDirectories` is all that following a path
needs: a path that denotes a place goes on denoting it as long as directories stay directories.
`Tree.Extends` is what creating directories does: nothing changes but that directories appear where
nothing stood. One place, that of a log, may be left aside.

## Main results

* `Tree.locate_mono`: a path denotes the same place in every tree that keeps the directories.
* `Tree.extends_createDirectories`: creating directories adds directories and changes nothing,
  whether it succeeds or fails on the way.
* `Tree.slot_eq_ok_iff`, `Tree.exists_write_iff`: which files can be written.
* `Tree.at?_append_of_file`, `Tree.sameDirectories_append`: a text is added at the end of a file, and
  nothing else changes.
* `Tree.extends_openToAppend`: opening a file for more text changes nothing but that file.
-/

namespace DataModel

/-- Two operations in a row. -/
theorem StateM.bind_apply {σ α β : Type} (x : StateM σ α) (f : α → StateM σ β) (s : σ) :
    (x >>= f) s = f (x s).1 (x s).2 := rfl

/-- No operation. -/
theorem StateM.pure_apply {σ α : Type} (a : α) (s : σ) : (pure a : StateM σ α) s = (a, s) := rfl

namespace Files

/-- A text is no directory. -/
theorem Entry.file_ne_directory (text : String) : Entry.file text ≠ .directory := nofun

namespace Tree

variable {t t' u : Tree} {p q : Place} {e : Entry} {path text : String} {log : Option Place}

/-! ### Entries -/

/-- The root is a directory. -/
@[simp] theorem at?_nil (t : Tree) : t.at? [] = some .directory := rfl

/-- Anywhere but at the root stands what the entries say. -/
theorem at?_of_ne_nil (hp : p ≠ []) : t.at? p = t.entries.lookup p := by
  rw [at?, if_neg (by simpa using hp)]

/-- The entry that is put at a place stands there. -/
theorem at?_put_self (hp : p ≠ []) : (t.put p e).at? p = some e := by
  rw [at?_of_ne_nil hp]
  exact List.lookup_put_self t.entries p e

/-- What stands elsewhere is left alone. -/
theorem at?_put_of_ne (h : q ≠ p) : (t.put p e).at? q = t.at? q := by
  by_cases hq : q = []
  · rw [hq, at?_nil, at?_nil]
  · rw [at?_of_ne_nil hq, at?_of_ne_nil hq]
    exact List.lookup_put_of_ne t.entries e h

/-- A place where no directory stands is not the root. -/
theorem ne_nil_of_at? (h : t.at? p ≠ some .directory) : p ≠ [] := by
  rintro rfl
  exact h rfl

/-! ### Directories -/

/-- Directories stay directories. -/
structure KeepsDirectories (t t' : Tree) : Prop where
  workingDirectory : t'.workingDirectory = t.workingDirectory
  directory : ∀ p, t.at? p = some .directory → t'.at? p = some .directory

namespace KeepsDirectories

theorem refl (t : Tree) : t.KeepsDirectories t := ⟨rfl, fun _ => id⟩

theorem trans (h : t.KeepsDirectories t') (h' : t'.KeepsDirectories u) : t.KeepsDirectories u :=
  ⟨h'.workingDirectory.trans h.workingDirectory, fun p hp => h'.directory p (h.directory p hp)⟩

end KeepsDirectories

/-- A component leads to a directory that stands at the place it denotes. -/
theorem enter_eq_ok_iff {name : String} :
    t.enter p name = .ok q ↔ placeIn p name = .ok q ∧ t.at? q = some .directory := by
  unfold enter
  rw [Except.bind_eq_ok_iff]
  constructor
  · rintro ⟨r, hr, h⟩
    split at h
    case h_1 hdirectory =>
      obtain rfl := Except.ok.inj h
      exact ⟨hr, hdirectory⟩
    case h_2 => cases h
    case h_3 => cases h
  · rintro ⟨hq, hdirectory⟩
    exact ⟨q, hq, by simp only [hdirectory]⟩

/-- Components lead to the same directory as long as directories stay directories. -/
theorem follow_mono (h : t.KeepsDirectories t') {names : List String}
    (hfollow : t.follow p names = .ok q) : t'.follow p names = .ok q := by
  induction names generalizing p with
  | nil => exact hfollow
  | cons name rest ih =>
      simp only [follow, List.foldlM_cons, Except.bind_eq_ok_iff] at hfollow ⊢
      obtain ⟨r, hr, hrest⟩ := hfollow
      obtain ⟨hplace, hdirectory⟩ := enter_eq_ok_iff.mp hr
      exact ⟨r, enter_eq_ok_iff.mpr ⟨hplace, h.directory r hdirectory⟩, ih hrest⟩

/-- **A path denotes the same place** as long as directories stay directories. -/
theorem locate_mono (h : t.KeepsDirectories t') (hlocate : t.locate path = .ok p) :
    t'.locate path = .ok p := by
  have horigin : t'.origin path = t.origin path := by
    rw [origin, origin, h.workingDirectory]
  unfold locate at hlocate ⊢
  rw [Except.bind_eq_ok_iff] at hlocate ⊢
  obtain ⟨checked, hchecked, hlocate⟩ := hlocate
  refine ⟨checked, hchecked, ?_⟩
  cases hlast : (components path).getLast? with
  | none => simpa only [hlast] using hlocate
  | some last =>
      simp only [hlast, Except.bind_eq_ok_iff] at hlocate ⊢
      obtain ⟨directory, hdirectory, hp⟩ := hlocate
      exact ⟨directory, horigin ▸ follow_mono h hdirectory, hp⟩

/-- The same directories stand in both trees. -/
def SameDirectories (t t' : Tree) : Prop := t.KeepsDirectories t' ∧ t'.KeepsDirectories t

namespace SameDirectories

theorem refl (t : Tree) : t.SameDirectories t := ⟨.refl t, .refl t⟩

theorem trans (h : t.SameDirectories t') (h' : t'.SameDirectories u) : t.SameDirectories u :=
  ⟨h.1.trans h'.1, h'.2.trans h.2⟩

theorem locate_eq_ok_iff (h : t.SameDirectories t') :
    t'.locate path = .ok p ↔ t.locate path = .ok p :=
  ⟨locate_mono h.2, locate_mono h.1⟩

theorem at?_eq_directory_iff (h : t.SameDirectories t') :
    t'.at? p = some .directory ↔ t.at? p = some .directory :=
  ⟨h.2.directory p, h.1.directory p⟩

end SameDirectories

/-- A file in the place of what is no directory leaves the directories as they are. -/
theorem sameDirectories_put (hp : t.at? p ≠ some .directory) (he : e ≠ .directory) :
    t.SameDirectories (t.put p e) := by
  have hself : (t.put p e).at? p = some e := at?_put_self (ne_nil_of_at? hp)
  refine ⟨⟨rfl, fun q hq => ?_⟩, ⟨rfl, fun q hq => ?_⟩⟩
  · by_cases hqp : q = p
    · exact absurd (hqp ▸ hq) hp
    · rw [at?_put_of_ne hqp, hq]
  · by_cases hqp : q = p
    · rw [hqp, hself] at hq
      exact absurd (Option.some.inj hq) he
    · rw [← hq, at?_put_of_ne hqp]

/-- The second tree has what the first one has, and nothing else but directories, the place of a log
left aside. -/
structure Extends (log : Option Place) (t t' : Tree) : Prop extends t.KeepsDirectories t' where
  at? : ∀ p, log ≠ some p → t'.at? p = t.at? p ∨ t.at? p = none ∧ t'.at? p = some .directory

namespace Extends

theorem refl (log : Option Place) (t : Tree) : t.Extends log t := ⟨.refl t, fun _ _ => .inl rfl⟩

theorem trans (h : t.Extends log t') (h' : t'.Extends log u) : t.Extends log u := by
  refine ⟨h.toKeepsDirectories.trans h'.toKeepsDirectories, fun p hlog => ?_⟩
  rcases h.at? p hlog with hp | ⟨hnone, hdirectory⟩
  · rcases h'.at? p hlog with hp' | ⟨hnone', hdirectory'⟩
    · exact .inl (hp'.trans hp)
    · exact .inr ⟨hp.symm.trans hnone', hdirectory'⟩
  · exact .inr ⟨hnone, h'.directory p hdirectory⟩

/-- Where nothing is left aside, a log may be. -/
theorem of_none (h : t.Extends none t') (log : Option Place) : t.Extends log t' :=
  ⟨h.toKeepsDirectories, fun p _ => h.at? p nofun⟩

/-- What stands in the first tree stands in the second. -/
theorem at?_eq_some (h : t.Extends log t') (hlog : log ≠ some p) (hp : t.at? p = some e) :
    t'.at? p = some e := by
  rcases h.at? p hlog with hsame | ⟨hnone, -⟩
  · exact hsame.trans hp
  · rw [hnone] at hp
    cases hp

/-- A file of the second tree is one of the first. -/
theorem at?_eq_some_iff (h : t.Extends log t') (hlog : log ≠ some p) (he : e ≠ .directory) :
    t'.at? p = some e ↔ t.at? p = some e := by
  refine ⟨fun hp => ?_, h.at?_eq_some hlog⟩
  rcases h.at? p hlog with hsame | ⟨-, hdirectory⟩
  · exact hsame.symm.trans hp
  · exact absurd (Option.some.inj (hp.symm.trans hdirectory)) he

/-- An entry put in the place of the log, or where it stood before, changes nothing. -/
theorem put (h : t.Extends log u) (hp : u.at? p ≠ some .directory) (he : e ≠ .directory)
    (hbefore : log ≠ some p → t.at? p = some e) : t.Extends log (u.put p e) := by
  refine ⟨h.toKeepsDirectories.trans (sameDirectories_put hp he).1, fun q hlog => ?_⟩
  by_cases hq : q = p
  · subst hq
    exact .inl ((at?_put_self (ne_nil_of_at? hp)).trans (hbefore hlog).symm)
  · rw [at?_put_of_ne hq]
    exact h.at? q hlog

end Extends

/-! ### Creating directories -/

/-- A directory where nothing stood. -/
theorem extends_put_directory (h : t.at? p = none) : t.Extends none (t.put p .directory) := by
  have hself : (t.put p .directory).at? p = some .directory :=
    at?_put_self (ne_nil_of_at? (t := t) (by simp [h]))
  refine ⟨⟨rfl, fun q hq => ?_⟩, fun q _ => ?_⟩
  · by_cases hqp : q = p
    · rw [hqp, hself]
    · rw [at?_put_of_ne hqp, hq]
  · by_cases hqp : q = p
    · subst hqp
      exact .inr ⟨h, hself⟩
    · exact .inl (at?_put_of_ne hqp)

/-- A directory is only created where nothing stood. -/
theorem extends_of_makeDirectory {names : List String} (h : t.makeDirectory p names = .ok t') :
    t.Extends none t' := by
  unfold makeDirectory at h
  split at h
  · cases h
  · obtain ⟨directory, -, h⟩ := Except.bind_eq_ok_iff.mp h
    obtain ⟨q, -, h⟩ := Except.bind_eq_ok_iff.mp h
    split at h
    · cases h
    case isFalse hnone =>
      obtain rfl := Except.ok.inj h
      exact extends_put_directory (Option.not_isSome_iff_eq_none.mp hnone)

theorem extends_ensureDirectory (t : Tree) (p : Place) (names : List String) :
    t.Extends none (t.ensureDirectory p names).2 := by
  unfold ensureDirectory
  cases hmake : t.makeDirectory p names with
  | ok created => exact extends_of_makeDirectory hmake
  | error fault => cases t.follow p names <;> exact .refl none t

theorem extends_ensureFirst (t : Tree) (p : Place) (directories : List (List String)) :
    t.Extends none (t.ensureFirst p directories).2 := by
  induction directories with
  | nil => exact .refl none t
  | cons names around ih =>
      unfold ensureFirst
      split
      case h_1 fault _ _ =>
        split
        · split
          case h_1 u haround =>
            rw [haround] at ih
            exact ih.trans (extends_ensureDirectory u p names)
          case h_2 => exact ih
        · exact .refl none t
      case h_2 => exact extends_ensureDirectory t p names

/-- **Creating directories** adds directories and changes nothing, whether it succeeds or not. -/
theorem extends_createDirectories (t : Tree) (path : String) :
    t.Extends none (t.createDirectories path).2 := by
  unfold createDirectories
  split
  · exact .refl none t
  · split
    · exact .refl none t
    · exact extends_ensureFirst t _ _

/-! ### Reading -/

/-- The file at a path stands where the path denotes it. -/
theorem file_eq_ok_iff : t.file path = .ok e ↔
    endsWithSlash path = false ∧ ∃ p, t.locate path = .ok p ∧ t.at? p = some e ∧ e ≠ .directory := by
  unfold file
  rw [Except.bind_eq_ok_iff]
  constructor
  · rintro ⟨p, hp, h⟩
    split at h
    case h_1 => cases h
    case h_2 e' hfile hentry =>
      split at h
      · cases h
      · obtain rfl := Except.ok.inj h
        exact ⟨Bool.eq_false_iff.mpr ‹_›, p, hp, hentry, hfile⟩
    case h_3 => cases h
  · rintro ⟨hslash, p, hp, hentry, hfile⟩
    refine ⟨p, hp, ?_⟩
    cases e with
    | directory => exact absurd rfl hfile
    | file text => simp [hentry, hslash]
    | binary text bytes => simp [hentry, hslash]

/-- The text of a file is read where a path denotes it. -/
theorem read_eq_ok_iff : t.read path = .ok text ↔
    endsWithSlash path = false ∧ ∃ p, t.locate path = .ok p ∧ t.at? p = some (.file text) := by
  unfold read
  rw [Except.bind_eq_ok_iff]
  constructor
  · rintro ⟨e, he, h⟩
    obtain ⟨hslash, p, hp, hentry, -⟩ := file_eq_ok_iff.mp he
    cases e with
    | directory => cases h
    | file text' =>
        obtain rfl := Except.ok.inj h
        exact ⟨hslash, p, hp, hentry⟩
    | binary text' bytes => cases h
  · rintro ⟨hslash, p, hp, hentry⟩
    exact ⟨.file text, file_eq_ok_iff.mpr ⟨hslash, p, hp, hentry, Entry.file_ne_directory text⟩, rfl⟩

/-- Where a path denotes a place, its text is what stands there. -/
theorem read_eq_ok_iff_of_locate (hslash : endsWithSlash path = false)
    (hp : t.locate path = .ok p) : t.read path = .ok text ↔ t.at? p = some (.file text) := by
  rw [read_eq_ok_iff]
  constructor
  · rintro ⟨-, q, hq, hat⟩
    rwa [Except.ok.inj (hp.symm.trans hq)]
  · exact fun hat => ⟨hslash, p, hp, hat⟩

/-! ### Writing -/

/-- A file can be written under a path at the place that the path denotes, unless a directory
stands there. -/
theorem slot_eq_ok_iff : t.slot path = .ok p ↔
    endsWithSlash path = false ∧ t.locate path = .ok p ∧ t.at? p ≠ some .directory := by
  unfold slot
  rw [Except.bind_eq_ok_iff]
  constructor
  · rintro ⟨q, hq, h⟩
    split at h
    case h_1 => cases h
    case h_2 e hfile hentry =>
      split at h
      · cases h
      · obtain rfl := Except.ok.inj h
        refine ⟨Bool.eq_false_iff.mpr ‹_›, hq, ?_⟩
        rw [hentry]
        exact fun hdirectory => hfile (Option.some.inj hdirectory)
    case h_3 hnone =>
      split at h
      · cases h
      · obtain rfl := Except.ok.inj h
        exact ⟨Bool.eq_false_iff.mpr ‹_›, hq, by simp [hnone]⟩
  · rintro ⟨hslash, hp, hdirectory⟩
    refine ⟨p, hp, ?_⟩
    split
    case h_1 h => exact absurd h hdirectory
    case h_2 => simp [hslash]
    case h_3 => simp [hslash]

/-- A file can be written at a path: no directory stands where it goes. -/
def CanWrite (t : Tree) (path : String) : Prop :=
  endsWithSlash path = false ∧ ∃ p, t.locate path = .ok p ∧ t.at? p ≠ some .directory

/-- A file can be written where there is a place for it. -/
theorem exists_slot_iff : (∃ p, t.slot path = .ok p) ↔ t.CanWrite path := by
  simp only [slot_eq_ok_iff, CanWrite, exists_and_left]

/-- Where a file can be written depends on the directories only. -/
theorem SameDirectories.slot_eq_ok_iff (h : t.SameDirectories t') :
    t'.slot path = .ok p ↔ t.slot path = .ok p := by
  simp only [Tree.slot_eq_ok_iff, h.locate_eq_ok_iff, Ne, h.at?_eq_directory_iff]

/-- Whether a file can be written depends on the directories only. -/
theorem SameDirectories.canWrite_iff (h : t.SameDirectories t') :
    t'.CanWrite path ↔ t.CanWrite path := by
  simp only [← exists_slot_iff, h.slot_eq_ok_iff]

/-- **Writing a file** puts it in its place. -/
theorem write_eq_ok_iff : t.write path text = .ok t' ↔
    ∃ p, t.slot path = .ok p ∧ t' = t.put p (.file text) := by
  unfold write
  simp only [Except.bind_eq_ok_iff, Except.pure_eq_ok_iff, eq_comm (a := t')]

/-- Writing succeeds exactly where a file can be written. -/
theorem exists_write_iff : (∃ t', t.write path text = .ok t') ↔ t.CanWrite path := by
  simp only [write_eq_ok_iff, ← exists_slot_iff]
  constructor
  · rintro ⟨_, p, hp, -⟩
    exact ⟨p, hp⟩
  · rintro ⟨p, hp⟩
    exact ⟨_, p, hp, rfl⟩

/-! ### Adding text -/

/-- What stands elsewhere is left alone where a text is added at the end of a file. -/
theorem at?_append_of_ne (h : q ≠ p) : (t.append p text).at? q = t.at? q := by
  unfold append
  split
  · exact at?_put_of_ne h
  · exact at?_put_of_ne h
  · rfl

/-- A text is added at the end of a file. -/
theorem at?_append_of_file {before : String} (h : t.at? p = some (.file before)) :
    (t.append p text).at? p = some (.file (before ++ text)) := by
  simp only [append, h]
  exact at?_put_self (ne_nil_of_at? (t := t) (by simp [h]))

/-- Adding text at the end of a file leaves the directories as they are. -/
theorem sameDirectories_append (t : Tree) (p : Place) (text : String) :
    t.SameDirectories (t.append p text) := by
  unfold append
  split
  case h_1 h => exact sameDirectories_put (by simp [h]) (Entry.file_ne_directory _)
  case h_2 h => exact sameDirectories_put (by simp [h]) nofun
  case h_3 => exact .refl t

/-- **Opening a file for more text** changes nothing but that file, which stands at its path then. -/
theorem extends_openToAppend (h : t.openToAppend path = .ok (p, t')) :
    t.Extends (some p) t' ∧ t'.locate path = .ok p := by
  obtain ⟨p', hslot, h⟩ := Except.bind_eq_ok_iff.mp h
  obtain ⟨-, hlocate, hfile⟩ := slot_eq_ok_iff.mp hslot
  obtain ⟨rfl, rfl⟩ := Prod.mk.inj (Except.pure_eq_ok_iff.mp h)
  split
  · exact ⟨.refl _ t, hlocate⟩
  · have hput := Entry.file_ne_directory ""
    exact ⟨(Extends.refl _ t).put hfile hput (absurd rfl),
      locate_mono (sameDirectories_put hfile hput).1 hlocate⟩

/-! ### The tree as a file system -/

/-- Reading a file changes nothing. -/
theorem system_read (t : Tree) (path : String) : system.read path t = (t.read path, t) := rfl

/-- Reading lines changes nothing. -/
theorem system_readLines (t : Tree) (path : String) :
    system.readLines path t = (t.readLines path, t) := rfl

/-- Asking what stands at a path changes nothing. -/
theorem system_isRegular (t : Tree) (path : String) :
    system.isRegular path t = (t.isRegular path, t) := rfl

theorem system_createDirectories (t : Tree) (path : String) :
    system.createDirectories path t = t.createDirectories path := rfl

/-- A change that succeeds is made. -/
theorem attempt_ok {α : Type} {a : α} {change : Tree → Except Fault (α × Tree)}
    (h : change t = .ok (a, t')) : attempt change t = (.ok a, t') := by
  simp only [attempt, h]

/-- A change that fails is not made. -/
theorem attempt_error {α : Type} {change : Tree → Except Fault (α × Tree)} {fault : Fault}
    (h : change t = .error fault) : attempt change t = (.error fault, t) := by
  simp only [attempt, h]

/-- A file is written where it can be. -/
theorem system_write_ok (h : t.write path text = .ok t') :
    system.write path text t = (.ok (), t') := by
  change attempt (fun t => (t.write path text).map ((), ·)) t = _
  exact attempt_ok (by simp only [h, Except.map])

/-- Nothing changes where a file cannot be written. -/
theorem system_write_error {fault : Fault} (h : t.write path text = .error fault) :
    system.write path text t = (.error fault, t) := by
  change attempt (fun t => (t.write path text).map ((), ·)) t = _
  exact attempt_error (by simp only [h, Except.map])

/-- Opening a file for more text changes nothing but that file, or nothing at all. -/
theorem openToAppend_cases {result : Except Fault Place}
    (h : system.openToAppend path t = (result, t')) :
    (∃ p, result = .ok p ∧ t.Extends (some p) t' ∧ t'.locate path = .ok p) ∨
      ∃ fault, result = .error fault ∧ t' = t := by
  change attempt (·.openToAppend path) t = _ at h
  cases hopen : t.openToAppend path with
  | ok opened =>
      obtain ⟨rfl, rfl⟩ := Prod.mk.inj ((attempt_ok hopen).symm.trans h)
      exact .inl ⟨opened.1, rfl, extends_openToAppend hopen⟩
  | error fault =>
      obtain ⟨rfl, rfl⟩ := Prod.mk.inj ((attempt_error hopen).symm.trans h)
      exact .inr ⟨fault, rfl, rfl⟩

end Tree

end Files

end DataModel
