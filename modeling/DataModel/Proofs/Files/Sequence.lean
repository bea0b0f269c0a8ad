import DataModel.Proofs.Journal

/-!
# Files that are written in order

Several files are written one after the other, and after each of them the journal tells of it. What
stands anywhere in the end follows from where the paths lead before the first is written, as writing
files and adding lines to the log leaves the directories as they are. At the place of the log, lines
that are told later come after whatever was written there.

## Main results

* `Files.Tree.at?_of_writeFiles`: **what stands outside the log after files have been written**: the
  text of the last file whose path denotes the place, and elsewhere what stood there before.
* `Files.Tree.at?_of_writeFiles_last`: the same with the log, where the lines follow that are told
  from then on.
* `Files.Tree.read_of_writeFiles_iff`: every file that was written can be read back exactly when no
  two of different texts denote one place and nothing is told after a file in the place of the log.
-/

namespace DataModel

/-- The last element of a list that has a property. -/
theorem List.exists_last {α : Type} {P : α → Prop} {l : List α} (h : ∃ a ∈ l, P a) :
    ∃ a rest, a :: rest <:+ l ∧ P a ∧ ∀ b ∈ rest, ¬ P b := by
  induction l with
  | nil => simp at h
  | cons a l ih =>
      by_cases hlater : ∃ b ∈ l, P b
      · obtain ⟨b, rest, hsuffix, hb, hrest⟩ := ih hlater
        exact ⟨b, rest, hsuffix.trans (List.suffix_cons a l), hb, hrest⟩
      · have hnone : ∀ b ∈ l, ¬ P b := fun b hb hP => hlater ⟨b, hb, hP⟩
        obtain ⟨b, hb, hP⟩ := h
        obtain rfl : b = a := (List.mem_cons.mp hb).resolve_right fun hb => hnone b hb hP
        exact ⟨b, l, List.suffix_refl _, hP, hnone⟩

namespace Files.Tree

variable {t t' u : Tree} {log : Option Place} {j : Journal} {files : List (String × String)}
  {p : Place} {path text : String}

/-- The tree after a file has been written and told of. -/
def writeFile (log : Option Place) (j : Journal) (t : Tree) (f : String × String) :
    Except Fault Tree := do
  let t ← t.write f.1 f.2
  return t.appendTo log (j.lines (.wrote f.1))

/-- The tree after files have been written in order and told of. -/
def writeFiles (t : Tree) (log : Option Place) (j : Journal) (files : List (String × String)) :
    Except Fault Tree :=
  files.foldlM (writeFile log j) t

/-- Files are written one at a time. -/
theorem writeFiles_cons_eq_ok_iff {f : String × String} :
    t.writeFiles log j (f :: files) = .ok t' ↔
      ∃ u, writeFile log j t f = .ok u ∧ u.writeFiles log j files = .ok t' := by
  rw [writeFiles, List.foldlM_cons]
  exact Except.bind_eq_ok_iff

/-- Files are written in two parts. -/
theorem writeFiles_append_eq_ok_iff {before : List (String × String)} :
    t.writeFiles log j (before ++ files) = .ok t' ↔
      ∃ u, t.writeFiles log j before = .ok u ∧ u.writeFiles log j files = .ok t' := by
  rw [writeFiles, List.foldlM_append]
  exact Except.bind_eq_ok_iff

/-- A file that is written comes to stand in its place, with the lines that tell of it where the log
is there. -/
theorem writeFile_eq_ok_iff {f : String × String} : writeFile log j t f = .ok t' ↔
    ∃ p, t.slot f.1 = .ok p ∧ t' = (t.put p (.file f.2)).appendTo log (j.lines (.wrote f.1)) := by
  simp only [writeFile, Except.bind_eq_ok_iff, write_eq_ok_iff, Except.pure_eq_ok_iff]
  constructor
  · rintro ⟨_, ⟨p, hp, rfl⟩, rfl⟩
    exact ⟨p, hp, rfl⟩
  · rintro ⟨p, hp, rfl⟩
    exact ⟨_, ⟨p, hp, rfl⟩, rfl⟩

/-- Writing a file leaves the directories as they are. -/
theorem sameDirectories_of_writeFile {f : String × String} (h : writeFile log j t f = .ok t') :
    t.SameDirectories t' := by
  obtain ⟨p, hslot, rfl⟩ := writeFile_eq_ok_iff.mp h
  have hput := sameDirectories_put (slot_eq_ok_iff.mp hslot).2.2 (Entry.file_ne_directory f.2)
  exact hput.trans (sameDirectories_appendTo _ log _)

/-- Writing a file changes nothing but what stands at its place, the log left aside. -/
theorem at?_of_writeFile_of_ne {f : String × String} (h : writeFile log j t f = .ok t')
    (hf : t.locate f.1 ≠ .ok p) (hlog : log ≠ some p) : t'.at? p = t.at? p := by
  obtain ⟨q, hslot, rfl⟩ := writeFile_eq_ok_iff.mp h
  rw [at?_appendTo_of_ne _ _ hlog]
  refine at?_put_of_ne fun hpq => hf ?_
  rw [hpq]
  exact (slot_eq_ok_iff.mp hslot).2.1

/-! ### The text at a place -/

/-- The text that comes to stand at a place when files are written in order: that of the last file
whose path denotes the place. -/
def writtenAt? (t : Tree) (files : List (String × String)) (p : Place) : Option String :=
  (files.filter fun f => (t.locate f.1).toOption = some p).getLast?.map (·.2)

/-- The text of the last of several files stands at the place that its path denotes. -/
theorem writtenAt?_append_of_locate {f : String × String} (hf : t.locate f.1 = .ok p) :
    t.writtenAt? (files ++ [f]) p = some f.2 := by
  simp [writtenAt?, List.filter_append, hf, Except.toOption]

/-- The last of several files makes no difference elsewhere. -/
theorem writtenAt?_append_of_ne {f : String × String} (hf : t.locate f.1 ≠ .ok p) :
    t.writtenAt? (files ++ [f]) p = t.writtenAt? files p := by
  have hnone : ¬ (t.locate f.1).toOption = some p := mt Except.toOption_eq_some_iff.mp hf
  simp [writtenAt?, List.filter_append, hnone]

/-- Which text comes to stand at a place depends on the directories only. -/
theorem SameDirectories.writtenAt?_eq (h : t.SameDirectories t') (files : List (String × String))
    (p : Place) : t'.writtenAt? files p = t.writtenAt? files p := by
  have hsame : ∀ path, (t'.locate path).toOption = some p ↔ (t.locate path).toOption = some p :=
    fun path => by rw [Except.toOption_eq_some_iff, Except.toOption_eq_some_iff, h.locate_eq_ok_iff]
  simp only [writtenAt?, hsame]

/-- **What stands outside the log after files have been written in order**, and that the directories
are the same: the invariant of the walk, where each file so far has been put at the place that its
path denotes in the first tree. -/
theorem at?_of_writeFiles (h : t.writeFiles log j files = .ok t') :
    t.SameDirectories t' ∧ ∀ p, log ≠ some p →
      t'.at? p = ((t.writtenAt? files p).map Entry.file).or (t.at? p) := by
  refine List.foldlM_invariant (fun done (u : Tree) => t.SameDirectories u ∧ ∀ p, log ≠ some p →
    u.at? p = ((t.writtenAt? done p).map Entry.file).or (t.at? p)) ?_ h ⟨.refl t, fun p _ => rfl⟩
  rintro done f - u u' - ⟨hdirectories, hentries⟩ hwrite
  refine ⟨hdirectories.trans (sameDirectories_of_writeFile hwrite), fun p hlog => ?_⟩
  by_cases hp : t.locate f.1 = .ok p
  · obtain ⟨q, hslot, rfl⟩ := writeFile_eq_ok_iff.mp hwrite
    obtain ⟨-, hq, hfile⟩ := slot_eq_ok_iff.mp hslot
    obtain rfl : q = p := Except.ok.inj (hq.symm.trans (hdirectories.locate_eq_ok_iff.mpr hp))
    rw [at?_appendTo_of_ne _ _ hlog, at?_put_self (ne_nil_of_at? hfile),
      writtenAt?_append_of_locate hp]
    rfl
  · rw [at?_of_writeFile_of_ne hwrite (mt hdirectories.locate_eq_ok_iff.mp hp) hlog,
      hentries p hlog, writtenAt?_append_of_ne hp]

/-- Files that are written elsewhere add to the log what is told of them. -/
theorem at?_of_writeFiles_of_log (h : t.writeFiles (some p) j files = .ok t')
    (hp : t.at? p = some (.file text)) (hfiles : ∀ f ∈ files, t.locate f.1 ≠ .ok p) :
    t'.at? p = some (.file (text ++ j.linesOf files)) := by
  induction files generalizing t text with
  | nil =>
      obtain rfl := Except.ok.inj h
      simpa [Journal.linesOf] using hp
  | cons f rest ih =>
      obtain ⟨u, hwrite, hrest⟩ := writeFiles_cons_eq_ok_iff.mp h
      have hsame := sameDirectories_of_writeFile hwrite
      have hu : u.at? p = some (.file (text ++ j.lines (.wrote f.1))) := by
        obtain ⟨q, hslot, rfl⟩ := writeFile_eq_ok_iff.mp hwrite
        have hpq : p ≠ q := by
          rintro rfl
          exact hfiles f (by simp) (slot_eq_ok_iff.mp hslot).2.1
        refine at?_appendTo_of_file ?_ _
        rw [at?_put_of_ne hpq, hp]
      rw [ih hrest hu fun g hg => mt hsame.locate_eq_ok_iff.mp (hfiles g (by simp [hg])),
        Journal.linesOf_cons, String.append_assoc]

/-- What stands at the place of a file after it and others have been written elsewhere: its text,
and in the log the lines that have been told from then on. -/
theorem at?_of_writeFiles_last {f : String × String} {rest : List (String × String)}
    (h : t.writeFiles log j files = .ok t') (hsuffix : f :: rest <:+ files)
    (hp : t.locate f.1 = .ok p) (hrest : ∀ g ∈ rest, t.locate g.1 ≠ .ok p) :
    t'.at? p = some (.file (if log = some p then f.2 ++ j.linesOf (f :: rest) else f.2)) := by
  obtain ⟨before, rfl⟩ := hsuffix
  obtain ⟨u, hbefore, h⟩ := writeFiles_append_eq_ok_iff.mp h
  obtain ⟨v, hwrite, hafter⟩ := writeFiles_cons_eq_ok_iff.mp h
  have hu := (at?_of_writeFiles hbefore).1
  have hv := hu.trans (sameDirectories_of_writeFile hwrite)
  have hlater : ∀ g ∈ rest, v.locate g.1 ≠ .ok p := fun g hg =>
    mt hv.locate_eq_ok_iff.mp (hrest g hg)
  obtain ⟨q, hslot, hvq⟩ := writeFile_eq_ok_iff.mp hwrite
  obtain ⟨-, hq, hfile⟩ := slot_eq_ok_iff.mp hslot
  obtain rfl : q = p := Except.ok.inj (hq.symm.trans (hu.locate_eq_ok_iff.mpr hp))
  have hput : (u.put q (.file f.2)).at? q = some (.file f.2) := at?_put_self (ne_nil_of_at? hfile)
  split
  case isTrue hlog =>
    subst hlog
    have hat : v.at? q = some (.file (f.2 ++ j.lines (.wrote f.1))) := by
      rw [hvq]
      exact at?_appendTo_of_file hput _
    rw [at?_of_writeFiles_of_log hafter hat hlater, Journal.linesOf_cons, String.append_assoc]
  case isFalse hlog =>
    have hnone : v.writtenAt? rest q = none := by
      simp only [writtenAt?, Option.map_eq_none_iff, List.getLast?_eq_none_iff,
        List.filter_eq_nil_iff, decide_eq_true_eq]
      exact fun g hg => mt Except.toOption_eq_some_iff.mp (hlater g hg)
    rw [(at?_of_writeFiles hafter).2 q hlog, hnone, hvq, at?_appendTo_of_ne _ _ hlog, hput]
    rfl

/-- Every file that was written could be. -/
theorem canWrite_of_writeFiles (h : t.writeFiles log j files = .ok t') {f : String × String}
    (hf : f ∈ files) : t.CanWrite f.1 := by
  induction files generalizing t with
  | nil => cases hf
  | cons g rest ih =>
      obtain ⟨u, hwrite, hrest⟩ := writeFiles_cons_eq_ok_iff.mp h
      rcases List.mem_cons.mp hf with rfl | hf
      · obtain ⟨p, hslot, -⟩ := writeFile_eq_ok_iff.mp hwrite
        exact exists_slot_iff.mp ⟨p, hslot⟩
      · exact (sameDirectories_of_writeFile hwrite).canWrite_iff.mp (ih hrest hf)

/-! ### What can be read in the end -/

section End

variable (h : t.writeFiles log j files = .ok u) (last : String)
include h

/-- Where paths lead is the same before the files are written and in the end. -/
theorem sameDirectories_of_writeFiles : t.SameDirectories (u.appendTo log last) :=
  (at?_of_writeFiles h).1.trans (sameDirectories_appendTo u log last)

/-- What stands at the place of the last file there in the end. -/
theorem at?_appendTo_of_writeFiles {f : String × String} {rest : List (String × String)}
    (hsuffix : f :: rest <:+ files) (hp : t.locate f.1 = .ok p)
    (hrest : ∀ g ∈ rest, t.locate g.1 ≠ .ok p) :
    (u.appendTo log last).at? p =
      some (.file (if log = some p then f.2 ++ (j.linesOf (f :: rest) ++ last) else f.2)) := by
  have hu := at?_of_writeFiles_last h hsuffix hp hrest
  split
  case isTrue hlog =>
    subst hlog
    rw [if_pos rfl] at hu
    rw [at?_appendTo_of_file hu, String.append_assoc]
  case isFalse hlog =>
    rw [if_neg hlog] at hu
    rw [at?_appendTo_of_ne u last hlog, hu]

/-- A file that was written is read back exactly when its text stands in its place. -/
theorem read_eq_ok_iff_at? {f : String × String} (hf : f ∈ files) (hp : t.locate f.1 = .ok p) :
    (u.appendTo log last).read f.1 = .ok text ↔
      (u.appendTo log last).at? p = some (.file text) :=
  read_eq_ok_iff_of_locate (canWrite_of_writeFiles h hf).1
    ((sameDirectories_of_writeFiles h last).locate_eq_ok_iff.mpr hp)

/-- **Every file that was written can be read back** exactly when files whose paths denote one place
have the same text, and nothing is told after the last of them in the place of the log. -/
theorem read_of_writeFiles_iff :
    (∀ f ∈ files, (u.appendTo log last).read f.1 = .ok f.2) ↔
      (∀ f ∈ files, ∀ g ∈ files, ∀ p,
        t.locate f.1 = .ok p → t.locate g.1 = .ok p → f.2 = g.2) ∧
      ∀ f rest, f :: rest <:+ files → ∀ p, t.locate f.1 = .ok p →
        (∀ g ∈ rest, t.locate g.1 ≠ .ok p) → log = some p → j.linesOf (f :: rest) ++ last = "" := by
  constructor
  · refine fun hread => ⟨fun f hf g hg p hfp hgp => ?_, fun f rest hsuffix p hp hrest hlog => ?_⟩
    · have hft := (read_eq_ok_iff_at? h last hf hfp).mp (hread f hf)
      have hgt := (read_eq_ok_iff_at? h last hg hgp).mp (hread g hg)
      exact Entry.file.inj (Option.some.inj (hft.symm.trans hgt))
    · have hf : f ∈ files := hsuffix.subset (by simp)
      have hat := (read_eq_ok_iff_at? h last hf hp).mp (hread f hf)
      rw [at?_appendTo_of_writeFiles h last hsuffix hp hrest, if_pos hlog, Option.some_inj,
        Entry.file.injEq] at hat
      simpa using hat
  · rintro ⟨hsame, hsilent⟩ f hf
    obtain ⟨-, p, hp, -⟩ := canWrite_of_writeFiles h hf
    -- What is read at the path of a file is what the last file at its place has left.
    have hthere : ∃ g ∈ files, t.locate g.1 = .ok p := ⟨f, hf, hp⟩
    obtain ⟨g, rest, hsuffix, hgp, hrest⟩ := List.exists_last hthere
    have hg : g ∈ files := hsuffix.subset (by simp)
    rw [read_eq_ok_iff_at? h last hf hp, at?_appendTo_of_writeFiles h last hsuffix hgp hrest]
    split
    case isTrue hlog =>
      rw [hsilent g rest hsuffix p hgp hrest hlog, String.append_empty, hsame f hf g hg p hp hgp]
    case isFalse => rw [hsame f hf g hg p hp hgp]

variable {before : Tree} (hbefore : before.Extends log t) (hlog : log ≠ some p)
include hbefore hlog

/-- **What stood before** the files were written still does, unless another text comes to stand in
its place. -/
theorem at?_eq_some_iff_of_writeFiles {e : Entry} (hp : before.at? p = some e) :
    (u.appendTo log last).at? p = some e ↔
      ∀ text, (u.appendTo log last).writtenAt? files p = some text → e = .file text := by
  rw [at?_appendTo_of_ne u last hlog, (at?_of_writeFiles h).2 p hlog,
    (sameDirectories_of_writeFiles h last).writtenAt?_eq]
  cases t.writtenAt? files p with
  | none => simp [hbefore.at?_eq_some hlog hp]
  | some text => simp [eq_comm]

/-- A file that could be read before has the same text, unless another comes to stand in its
place. -/
theorem read_eq_ok_iff_of_writeFiles (hread : before.read path = .ok text)
    (hp : before.locate path = .ok p) :
    (u.appendTo log last).read path = .ok text ↔
      ∀ new, (u.appendTo log last).writtenAt? files p = some new → new = text := by
  have hslash := (read_eq_ok_iff.mp hread).1
  have hat := (read_eq_ok_iff_of_locate hslash hp).mp hread
  have hp' : (u.appendTo log last).locate path = .ok p :=
    (sameDirectories_of_writeFiles h last).locate_eq_ok_iff.mpr
      (locate_mono hbefore.toKeepsDirectories hp)
  rw [read_eq_ok_iff_of_locate hslash hp', at?_eq_some_iff_of_writeFiles h last hbefore hlog hat]
  simp only [Entry.file.injEq, eq_comm]

end End

end Files.Tree

end DataModel
