import DataModel.Proofs.Files.Sequence
import DataModel.Proofs.Program.Course
import Mathlib.Data.Prod.Basic

/-!
# What a run leaves behind

The artifacts are written one after the other, each at its own path, without a look at what stands
there and without a way back. Two things are asked of this. A run that fails should leave no
artifact: that is so unless the script can be written and the API schema cannot. A run that succeeds
should leave every artifact at its path and change no other file: that is so unless paths denote the
same place, be it those of the two artifacts or those of an artifact and some other file, such as
the schema document. The log of the run is left aside in both.

What is said of runs holds for all readers of command lines, settings and configurations, and for
all journals.

## Main results

* `Artifacts.writeAll_ok`, `Artifacts.writeAll_error`: which files have been written when writing
  ends.
* `Artifacts.write_of_strands`, `Artifacts.write_error_iff`: where writing fails, it has changed a
  file exactly when it was stranded between the two artifacts, and then the script.
* `Artifacts.sqlText_ne_schemaText`: the two artifacts are never the same text.
* `Artifacts.standIn_appendTo_iff`: both artifacts stand at their paths exactly when these denote
  different places and the log spares them.
* `Program.failure_spares_files_iff`: **a run that fails changes no file but the log** exactly when
  it is not stranded.
* `Program.success_places_artifacts`: **what a run that succeeds has written, and where**: each
  artifact stands at its path exactly when the two paths denote different places, and a file keeps
  its text exactly when no artifact with another text comes to stand in its place.
-/

namespace DataModel

open Files

variable {t t' : Tree} {log : Option Files.Place} {journal : Journal}

/-! ### Writing several files -/

namespace Artifacts

/-- Nothing is written after a file that cannot be. -/
theorem writeAll_cons_error {f : String × String} {fault : Fault}
    (h : t.write f.1 f.2 = .error fault) (rest : List (String × String)) :
    writeAll Tree.system (journal.note Tree.system log) (f :: rest) t =
      (.error (.unwritable f.1 fault), t) := by
  simp only [writeAll, StateM.bind_apply, Tree.system_write_error h]
  rfl

/-- The other files are written after the first, and after it has been told of. -/
theorem writeAll_cons_ok {f : String × String} {u : Tree} (h : t.write f.1 f.2 = .ok u)
    (rest : List (String × String)) :
    writeAll Tree.system (journal.note Tree.system log) (f :: rest) t =
      Prod.map (Except.map (f.1 :: ·)) id (writeAll Tree.system (journal.note Tree.system log) rest
        (u.appendTo log (journal.lines (.wrote f.1)))) := by
  simp only [writeAll, StateM.bind_apply, Tree.system_write_ok h, Journal.note_apply]
  rfl

/-- A file is written and told of where it can be written. -/
theorem writeFile_of_write {f : String × String} {u : Tree} (h : t.write f.1 f.2 = .ok u)
    (log : Option Files.Place) (journal : Journal) :
    Tree.writeFile log journal t f = .ok (u.appendTo log (journal.lines (.wrote f.1))) := by
  simp only [Tree.writeFile, h, Except.bind_eq_ok_iff, Except.pure_eq_ok_iff]
  exact ⟨u, rfl, rfl⟩

/-- Writing that succeeds has written all files and tells their paths. -/
theorem writeAll_ok {files : List (String × String)} {paths : List String}
    (h : writeAll Tree.system (journal.note Tree.system log) files t = (.ok paths, t')) :
    paths = files.map (·.1) ∧ t.writeFiles log journal files = .ok t' := by
  induction files generalizing t paths with
  | nil =>
      obtain ⟨hpaths, rfl⟩ := Prod.mk.inj h
      exact ⟨(Except.ok.inj hpaths).symm, rfl⟩
  | cons f rest ih =>
      cases hwrite : t.write f.1 f.2 with
      | error fault => cases (Prod.mk.inj ((writeAll_cons_error hwrite rest).symm.trans h)).1
      | ok u =>
          obtain ⟨hpaths, hu⟩ := Prod.mk.inj ((writeAll_cons_ok hwrite rest).symm.trans h)
          obtain ⟨others, hothers, rfl⟩ := Except.map_eq_ok_iff.mp hpaths
          obtain ⟨rfl, hfiles⟩ := ih (Prod.ext hothers hu)
          have hfile := writeFile_of_write hwrite log journal
          exact ⟨rfl, Tree.writeFiles_cons_eq_ok_iff.mpr ⟨_, hfile, hfiles⟩⟩

/-- **Writing that fails** has written the files before the first that cannot be written. -/
theorem writeAll_error {files : List (String × String)} {e : PipelineError}
    (h : writeAll Tree.system (journal.note Tree.system log) files t = (.error e, t')) :
    ∃ done f rest, files = done ++ f :: rest ∧ t.writeFiles log journal done = .ok t' ∧
      ¬ t.CanWrite f.1 := by
  induction files generalizing t with
  | nil => cases (Prod.mk.inj h).1
  | cons f rest ih =>
      cases hwrite : t.write f.1 f.2 with
      | error fault =>
          obtain ⟨-, rfl⟩ := Prod.mk.inj ((writeAll_cons_error hwrite rest).symm.trans h)
          refine ⟨[], f, rest, rfl, rfl, fun hcan => ?_⟩
          obtain ⟨u, hu⟩ := Tree.exists_write_iff.mpr hcan
          cases hwrite.symm.trans hu
      | ok u =>
          obtain ⟨herror, hu⟩ := Prod.mk.inj ((writeAll_cons_ok hwrite rest).symm.trans h)
          have hfile := writeFile_of_write hwrite log journal
          obtain ⟨done, g, rest', rfl, hdone, hg⟩ :=
            ih (Prod.ext (Except.map_eq_error_iff.mp herror) hu)
          refine ⟨f :: done, g, rest', rfl,
            Tree.writeFiles_cons_eq_ok_iff.mpr ⟨_, hfile, hdone⟩, fun hcan => hg ?_⟩
          exact (Tree.sameDirectories_of_writeFile hfile).canWrite_iff.mpr hcan

/-- Writing files leaves the directories as they are, whether it succeeds or not. -/
theorem sameDirectories_writeAll (t : Tree) (log : Option Files.Place) (journal : Journal)
    (files : List (String × String)) :
    t.SameDirectories (writeAll Tree.system (journal.note Tree.system log) files t).2 := by
  induction files generalizing t with
  | nil => exact .refl t
  | cons f rest ih =>
      cases hwrite : t.write f.1 f.2 with
      | error fault =>
          rw [writeAll_cons_error hwrite rest]
          exact .refl t
      | ok u =>
          rw [writeAll_cons_ok hwrite rest]
          have hfile := writeFile_of_write hwrite log journal
          exact (Tree.sameDirectories_of_writeFile hfile).trans (ih _)

/-! ### Writing the artifacts -/

variable {a : Artifacts} {c : OutputConfig} {e : PipelineError}

/-- The output directory is created before anything is written. -/
theorem write_apply (t : Tree) (log : Option Files.Place) (journal : Journal) (a : Artifacts)
    (c : OutputConfig) :
    a.write Tree.system (journal.note Tree.system log) c t =
      if (a.outputs c).isEmpty then (.ok [], t)
      else
        match t.createDirectories c.directory with
        | (.error fault, base) => (.error (.unwritable c.directory fault), base)
        | (.ok (), base) =>
          writeAll Tree.system (journal.note Tree.system log) (a.outputs c) base := by
  unfold write
  split
  · rfl
  · rw [StateM.bind_apply, Tree.system_createDirectories]
    cases t.createDirectories c.directory with
    | mk created base => cases created <;> rfl

/-- Writing the artifacts ends with nothing to write, without an output directory, or as writing the
files does. -/
theorem write_cases {result : Except PipelineError (List String)}
    (h : a.write Tree.system (journal.note Tree.system log) c t = (result, t')) :
    (a.outputs c = [] ∧ result = .ok [] ∧ t' = t) ∨
      (∃ fault, result = .error (.unwritable c.directory fault) ∧ t.Extends log t') ∨
      ∃ base, t.createDirectories c.directory = (.ok (), base) ∧ t.Extends log base ∧
        writeAll Tree.system (journal.note Tree.system log) (a.outputs c) base = (result, t') := by
  rw [write_apply] at h
  split at h
  case isTrue hempty =>
    obtain ⟨rfl, rfl⟩ := Prod.mk.inj h
    exact .inl ⟨List.isEmpty_iff.mp hempty, rfl, rfl⟩
  case isFalse =>
    have hbase := (Tree.extends_createDirectories t c.directory).of_none log
    cases hcreate : t.createDirectories c.directory with
    | mk created base =>
        simp only [hcreate] at h hbase
        cases created with
        | error fault =>
            obtain ⟨rfl, rfl⟩ := Prod.mk.inj h
            exact .inr (.inl ⟨fault, rfl, hbase⟩)
        | ok _ => exact .inr (.inr ⟨base, rfl, hbase, h⟩)

/-- Writing the artifacts leaves all directories where they are, whether it succeeds or not. -/
theorem keepsDirectories_of_write {result : Except PipelineError (List String)}
    (h : a.write Tree.system (journal.note Tree.system log) c t = (result, t')) :
    t.KeepsDirectories t' := by
  rcases write_cases h with ⟨-, -, rfl⟩ | ⟨-, -, hextends⟩ | ⟨base, -, hbase, hall⟩
  · exact .refl t'
  · exact hextends.toKeepsDirectories
  · have hsame := sameDirectories_writeAll base log journal (a.outputs c)
    rw [hall] at hsame
    exact hbase.toKeepsDirectories.trans hsame.1

/-- Writing the artifacts is bound to be stranded between the two: both are wanted, the script can
be written in the place of something else, which is not the log, and the API schema cannot be
written. -/
structure Strands (a : Artifacts) (c : OutputConfig) (log : Option Files.Place) (t base : Tree)
    (p : Files.Place) (script : String) : Prop where
  sqlText : a.sqlText? = some script
  schemaText : a.schemaText?.isSome = true
  created : t.createDirectories c.directory = (.ok (), base)
  slot : base.slot c.sqlPath = .ok p
  unlogged : log ≠ some p
  before : t.at? p ≠ some (.file script)
  blocked : ¬ base.CanWrite c.schemaPath

section Strands

variable {base : Tree} {p : Files.Place} {script : String}

/-- **Writing that is stranded** fails for the path of the API schema, and has put the script in its
place. -/
theorem write_of_strands (h : a.Strands c log t base p script) (journal : Journal) :
    ∃ fault, a.write Tree.system (journal.note Tree.system log) c t =
      (.error (.unwritable c.schemaPath fault),
        (base.put p (.file script)).appendTo log (journal.lines (.wrote c.sqlPath))) := by
  obtain ⟨schema, hschema⟩ := Option.isSome_iff_exists.mp h.schemaText
  have houtputs : a.outputs c = [(c.sqlPath, script), (c.schemaPath, schema)] := by
    simp [outputs, h.sqlText, hschema]
  have hscript : base.write c.sqlPath script = .ok (base.put p (.file script)) :=
    Tree.write_eq_ok_iff.mpr ⟨p, h.slot, rfl⟩
  have hsame := Tree.sameDirectories_of_writeFile
    (writeFile_of_write (f := (c.sqlPath, script)) hscript log journal)
  generalize hwritten : (base.put p (.file script)).appendTo log
    (journal.lines (.wrote c.sqlPath)) = written at hsame
  have hfault : ∃ fault, written.write c.schemaPath schema = .error fault := by
    cases hwrite : written.write c.schemaPath schema with
    | error fault => exact ⟨fault, rfl⟩
    | ok u => exact absurd (hsame.canWrite_iff.mp (Tree.exists_write_iff.mp ⟨u, hwrite⟩)) h.blocked
  obtain ⟨fault, hfault⟩ := hfault
  refine ⟨fault, ?_⟩
  rw [write_apply, houtputs, h.created]
  refine (writeAll_cons_ok (f := (c.sqlPath, script)) hscript _).trans ?_
  rw [hwritten, writeAll_cons_error (f := (c.schemaPath, schema)) hfault []]
  rfl

/-- Writing that is stranded has changed a file, seen from any tree before. -/
theorem Strands.not_extends (h : a.Strands c log t base p script) (journal : Journal)
    {before : Tree} (hbefore : before.Extends log t) :
    ¬ before.Extends log (a.write Tree.system (journal.note Tree.system log) c t).2 := by
  obtain ⟨fault, hwrite⟩ := write_of_strands h journal
  rw [hwrite]
  intro hextends
  have hfile := (Tree.slot_eq_ok_iff.mp h.slot).2.2
  have hwritten : ((base.put p (.file script)).appendTo log
      (journal.lines (.wrote c.sqlPath))).at? p = some (.file script) := by
    rw [Tree.at?_appendTo_of_ne _ _ h.unlogged, Tree.at?_put_self (Tree.ne_nil_of_at? hfile)]
  have hfirst := (hextends.at?_eq_some_iff h.unlogged (Entry.file_ne_directory script)).mp
    hwritten
  exact h.before (hbefore.at?_eq_some h.unlogged hfirst)

end Strands

/-- Before a file of the artifacts comes nothing, or the script where the file is that of the API
schema. -/
theorem outputs_split {done rest : List (String × String)} {f : String × String}
    (h : a.outputs c = done ++ f :: rest) :
    done = [] ∨ ∃ script, a.sqlText? = some script ∧ a.schemaText?.isSome = true ∧
      done = [(c.sqlPath, script)] ∧ f.1 = c.schemaPath := by
  unfold outputs at h
  cases hscript : a.sqlText? with
  | none =>
      cases hschema : a.schemaText? <;> cases done <;> simp_all
  | some script =>
      cases hschema : a.schemaText? with
      | none => cases done <;> simp_all
      | some schema =>
          rcases done with - | ⟨g, - | ⟨g', done⟩⟩
          · exact .inl rfl
          · simp only [hscript, hschema, Option.map_some, Option.toList_some, List.cons_append,
              List.nil_append, List.cons.injEq] at h
            exact .inr ⟨script, rfl, rfl, by rw [h.1], by rw [← h.2.1]⟩
          · simp [hscript, hschema] at h

/-- **Writing that fails changes no file** exactly when it was not stranded. -/
theorem write_error_iff
    (h : a.write Tree.system (journal.note Tree.system log) c t = (.error e, t')) :
    t.Extends log t' ↔ ¬ ∃ base p script, a.Strands c log t base p script := by
  constructor
  · rintro hextends ⟨base, p, script, hstrands⟩
    refine hstrands.not_extends journal (.refl log t) ?_
    rwa [h]
  · intro hnot
    rcases write_cases h with ⟨-, herror, -⟩ | ⟨-, -, hextends⟩ | ⟨base, hcreate, hbase, hall⟩
    · cases herror
    · exact hextends
    · obtain ⟨done, f, rest, houtputs, hdone, hblocked⟩ := writeAll_error hall
      rcases outputs_split houtputs with rfl | ⟨script, hscript, hschema, rfl, hf⟩
      · obtain rfl := Except.ok.inj hdone
        exact hbase
      · obtain ⟨u, hwrite, hu⟩ := Tree.writeFiles_cons_eq_ok_iff.mp hdone
        obtain rfl := Except.ok.inj hu
        obtain ⟨p, hslot, rfl⟩ := Tree.writeFile_eq_ok_iff.mp hwrite
        have hfile := (Tree.slot_eq_ok_iff.mp hslot).2.2
        refine (hbase.put hfile (Entry.file_ne_directory script) fun hlog => ?_).trans
          (Tree.extends_appendTo _ log _)
        -- The script has been written: without stranding it stood there before.
        by_contra hbefore
        exact hnot ⟨base, p, script,
          { sqlText := hscript
            schemaText := hschema
            created := hcreate
            slot := hslot
            unlogged := hlog
            before := hbefore
            blocked := hf ▸ hblocked }⟩

/-- Writing that succeeds has created the output directory and written all artifacts. -/
theorem write_ok {paths : List String}
    (h : a.write Tree.system (journal.note Tree.system log) c t = (.ok paths, t')) :
    paths = (a.outputs c).map (·.1) ∧ ∃ base, t.Extends log base ∧
      base.writeFiles log journal (a.outputs c) = .ok t' := by
  rcases write_cases h with ⟨hnil, hpaths, rfl⟩ | ⟨fault, herror, -⟩ | ⟨base, -, hbase, hall⟩
  · obtain rfl := Except.ok.inj hpaths
    exact ⟨by rw [hnil]; rfl, t', .refl log t', by rw [hnil]; rfl⟩
  · cases herror
  · obtain ⟨hpaths, hfiles⟩ := writeAll_ok hall
    exact ⟨hpaths, base, hbase, hfiles⟩

/-! ### The texts of the artifacts -/

/-- A script of some statement ends in a semicolon and a line feed. -/
theorem suffix_script (s : Sql.Statement) (rest : List Sql.Statement) :
    [';', '\n'] <:+ (Sql.script (s :: rest)).toList := by
  unfold Sql.script
  rw [String.toList_intercalate]
  induction rest generalizing s with
  | nil => simp
  | cons s' rest ih =>
      rw [List.map_cons, List.map_cons, List.map_cons, List.map_cons, List.intercalate_cons_cons]
      exact (ih s').trans (List.suffix_append _ _)

/-- The text of an API schema ends in a closing brace and a line feed. -/
theorem suffix_render (s : Api.Schema) : ['\x7d', '\n'] <:+ s.render.toList := by
  have hbrace : ['\x7d', '\n'] <:+ ("\n\x7d\n" : String).toList := by decide
  unfold Api.Schema.render Api.Schema.closingText
  simp only [String.toList_append]
  exact hbrace.trans ((List.suffix_append _ _).trans (List.suffix_append _ _))

/-- **The two artifacts** are never the same text. -/
theorem sqlText_ne_schemaText {script schema : String} (hscript : a.sqlText? = some script)
    (hschema : a.schemaText? = some schema) : script ≠ schema := by
  obtain ⟨statements, -, rfl⟩ := Option.map_eq_some_iff.mp hscript
  obtain ⟨s, -, rfl⟩ := Option.map_eq_some_iff.mp hschema
  intro heq
  have hbrace := suffix_render s
  rw [← heq] at hbrace
  cases statements with
  | nil => exact absurd hbrace (by decide)
  | cons first rest =>
      have hlength := List.suffix_of_suffix_length_le hbrace (suffix_script first rest) (by simp)
      exact absurd (hlength.eq_of_length rfl) (by decide)

/-- What is computed is what is wanted. -/
theorem isSome_of_onlyIf {ε α : Type} {wanted : Bool} {result : Except ε α} {x : Option α}
    (h : onlyIf wanted result = .ok x) : x.isSome = wanted := by
  unfold onlyIf at h
  split at h
  case isTrue hwanted =>
    obtain ⟨_, -, rfl⟩ := Except.map_eq_ok_iff.mp h
    exact hwanted.symm
  case isFalse hwanted =>
    obtain rfl := Except.ok.inj h
    exact (Bool.eq_false_iff.mpr hwanted).symm

/-- **The artifacts of a schema document** are those that are wanted. -/
theorem wanted_of_compile {source : String} {targets : Targets}
    (h : compile source targets = .ok a) :
    a.sqlText?.isSome = targets.wantSql ∧ a.schemaText?.isSome = targets.wantSchema := by
  simp only [compile, ofDocument, Except.bind_eq_ok_iff, Except.pure_eq_ok_iff] at h
  obtain ⟨parsed, -, d, -, relations, -, statements, hstatements, schema, hschema, rfl⟩ := h
  simp only [sqlText?, schemaText?, Option.isSome_map]
  exact ⟨isSome_of_onlyIf hstatements, isSome_of_onlyIf hschema⟩

/-- The files that are written: the script and the text of the API schema, as far as they exist. -/
theorem mem_outputs_iff {f : String × String} : f ∈ a.outputs c ↔
    a.sqlText? = some f.2 ∧ f.1 = c.sqlPath ∨ a.schemaText? = some f.2 ∧ f.1 = c.schemaPath := by
  obtain ⟨path, text⟩ := f
  simp only [outputs, List.mem_append, Option.mem_toList, Option.map_eq_some_iff, Prod.mk.injEq]
  constructor
  · rintro (⟨_, htext, rfl, rfl⟩ | ⟨_, htext, rfl, rfl⟩)
    · exact .inl ⟨htext, rfl⟩
    · exact .inr ⟨htext, rfl⟩
  · rintro (⟨htext, rfl⟩ | ⟨htext, rfl⟩)
    · exact .inl ⟨text, htext, rfl, rfl⟩
    · exact .inr ⟨text, htext, rfl, rfl⟩

/-- Files of the artifacts at one place have the same text exactly when the two paths denote
different places, as the two texts differ. -/
theorem outputs_apart_iff (denotes : String → Files.Place → Prop) :
    (∀ f ∈ a.outputs c, ∀ g ∈ a.outputs c, ∀ p, denotes f.1 p → denotes g.1 p → f.2 = g.2) ↔
      (a.sqlText?.isSome = true → a.schemaText?.isSome = true →
        ∀ p, denotes c.sqlPath p → ¬ denotes c.schemaPath p) := by
  constructor
  · intro hsame hsql hschema p hp hp'
    obtain ⟨script, hscript⟩ := Option.isSome_iff_exists.mp hsql
    obtain ⟨schema, hschema⟩ := Option.isSome_iff_exists.mp hschema
    exact sqlText_ne_schemaText hscript hschema <|
      hsame (c.sqlPath, script) (mem_outputs_iff.mpr (.inl ⟨hscript, rfl⟩))
        (c.schemaPath, schema) (mem_outputs_iff.mpr (.inr ⟨hschema, rfl⟩)) p hp hp'
  · intro hapart f hf g hg p hfp hgp
    rcases mem_outputs_iff.mp hf with ⟨hft, hfpath⟩ | ⟨hft, hfpath⟩ <;>
      rcases mem_outputs_iff.mp hg with ⟨hgt, hgpath⟩ | ⟨hgt, hgpath⟩
    · exact Option.some.inj (hft.symm.trans hgt)
    · exact absurd (hgpath ▸ hgp) (hapart (by simp [hft]) (by simp [hgt]) p (hfpath ▸ hfp))
    · exact absurd (hfpath ▸ hfp) (hapart (by simp [hgt]) (by simp [hft]) p (hgpath ▸ hgp))
    · exact Option.some.inj (hft.symm.trans hgt)

/-- The files that are written from some point on: the script and whatever follows it, or the API
schema alone. -/
theorem suffix_outputs_iff {f : String × String} {rest : List (String × String)} :
    f :: rest <:+ a.outputs c ↔
      (∃ script, a.sqlText? = some script ∧ f = (c.sqlPath, script) ∧
        rest = (a.schemaText?.map (c.schemaPath, ·)).toList) ∨
      ∃ schema, a.schemaText? = some schema ∧ f = (c.schemaPath, schema) ∧ rest = [] := by
  unfold outputs
  cases a.sqlText? <;> cases a.schemaText? <;> simp [List.suffix_cons_iff]

/-- After a file of the artifacts comes nothing, or the API schema where the file is the script. -/
theorem of_mem_later {f g : String × String} {rest : List (String × String)}
    (h : f :: rest <:+ a.outputs c) (hg : g ∈ rest) :
    a.sqlText?.isSome = true ∧ a.schemaText?.isSome = true ∧ f.1 = c.sqlPath ∧
      g.1 = c.schemaPath := by
  rcases suffix_outputs_iff.mp h with ⟨script, hscript, rfl, rfl⟩ | ⟨schema, -, -, rfl⟩
  · obtain ⟨schema, hschema, rfl⟩ := Option.map_eq_some_iff.mp (Option.mem_toList.mp hg)
    exact ⟨by simp [hscript], by simp [hschema], rfl, rfl⟩
  · cases hg

/-- The paths that are written, those of the artifacts that exist. -/
theorem map_fst_outputs (a : Artifacts) (c : OutputConfig) :
    (a.outputs c).map (·.1) = (if a.sqlText?.isSome then [c.sqlPath] else []) ++
      if a.schemaText?.isSome then [c.schemaPath] else [] := by
  unfold outputs
  cases a.sqlText? <;> cases a.schemaText? <;> rfl

/-- Every artifact stands in full at its own path: the script at the path of the statements, the API
schema at that of the API schema. -/
def StandIn (a : Artifacts) (c : OutputConfig) (t : Tree) : Prop :=
  (∀ script, a.sqlText? = some script → t.read c.sqlPath = .ok script) ∧
    ∀ schema, a.schemaText? = some schema → t.read c.schemaPath = .ok schema

/-- The artifacts stand at their paths when all files that are written can be read back. -/
theorem standIn_iff : a.StandIn c t ↔ ∀ f ∈ a.outputs c, t.read f.1 = .ok f.2 := by
  constructor
  · rintro ⟨hsql, hschema⟩ f hf
    rcases mem_outputs_iff.mp hf with ⟨htext, hpath⟩ | ⟨htext, hpath⟩
    · rw [hpath, hsql _ htext]
    · rw [hpath, hschema _ htext]
  · intro hread
    exact ⟨fun script h => hread (c.sqlPath, script) (mem_outputs_iff.mpr (.inl ⟨h, rfl⟩)),
      fun schema h => hread (c.schemaPath, schema) (mem_outputs_iff.mpr (.inr ⟨h, rfl⟩))⟩

/-- The text that the artifacts leave at a place: the API schema where its path leads there, and
otherwise the script where its path does. -/
def Leaves (a : Artifacts) (c : OutputConfig) (t : Tree) (p : Files.Place) (text : String) : Prop :=
  a.schemaText? = some text ∧ t.locate c.schemaPath = .ok p ∨
    a.sqlText? = some text ∧ t.locate c.sqlPath = .ok p ∧
      (a.schemaText?.isSome = true → t.locate c.schemaPath ≠ .ok p)

/-- What the artifacts leave at a place is the text of the last file that is written there. -/
theorem writtenAt?_outputs_eq_some_iff {p : Files.Place} {text : String} :
    t.writtenAt? (a.outputs c) p = some text ↔ a.Leaves c t p text := by
  have hlocate : ∀ path, (t.locate path).toOption = some p ↔ t.locate path = .ok p :=
    fun path => Except.toOption_eq_some_iff
  unfold Leaves outputs Tree.writtenAt?
  cases a.sqlText? <;> cases a.schemaText? <;> by_cases hsql : t.locate c.sqlPath = .ok p <;>
    by_cases hschema : t.locate c.schemaPath = .ok p <;>
    simp [hlocate, hsql, hschema]

/-- Where an artifact has the place of the log, nothing is told after it has been written. -/
structure LogSpares (a : Artifacts) (c : OutputConfig) (journal : Journal) (log : Option Files.Place)
    (t : Tree) : Prop where
  script : a.sqlText?.isSome = true → ∀ p, t.locate c.sqlPath = .ok p → log = some p →
    journal.lines (.wrote c.sqlPath) = "" ∧
      (a.schemaText?.isSome = true → journal.lines (.wrote c.schemaPath) = "") ∧
      journal.lines .finished = ""
  schema : a.schemaText?.isSome = true → ∀ p, t.locate c.schemaPath = .ok p → log = some p →
    journal.lines (.wrote c.schemaPath) = "" ∧ journal.lines .finished = ""

/-- The log spares the artifacts when nothing is told from the moment on when one is written there. -/
theorem logSpares_iff : a.LogSpares c journal log t ↔
    ∀ f rest, f :: rest <:+ a.outputs c → ∀ p, t.locate f.1 = .ok p → log = some p →
      journal.linesOf (f :: rest) ++ journal.lines .finished = "" := by
  constructor
  · rintro ⟨hsql, hschema⟩ f rest hsuffix p hp hlog
    rcases suffix_outputs_iff.mp hsuffix with ⟨script, hsome, rfl, rfl⟩ | ⟨schema, hsome, rfl, rfl⟩
    · obtain ⟨hscript, hlater, hlast⟩ := hsql (by simp [hsome]) p hp hlog
      cases hnext : a.schemaText? with
      | none => simp [Journal.linesOf, hscript, hlast]
      | some schema => simp [Journal.linesOf, hscript, hlast, hlater (by simp [hnext])]
    · obtain ⟨hlines, hlast⟩ := hschema (by simp [hsome]) p hp hlog
      simp [Journal.linesOf, hlines, hlast]
  · intro hsilent
    refine ⟨fun hsome p hp hlog => ?_, fun hsome p hp hlog => ?_⟩
    · obtain ⟨script, hscript⟩ := Option.isSome_iff_exists.mp hsome
      have hlines := hsilent _ _ (suffix_outputs_iff.mpr (.inl ⟨script, hscript, rfl, rfl⟩)) p hp hlog
      cases hnext : a.schemaText? with
      | none => simpa [Journal.linesOf, hnext, String.append_eq_empty_iff] using hlines
      | some schema =>
          simpa [Journal.linesOf, hnext, String.append_eq_empty_iff, and_assoc] using hlines
    · obtain ⟨schema, hschema⟩ := Option.isSome_iff_exists.mp hsome
      have hlines := hsilent _ _ (suffix_outputs_iff.mpr (.inr ⟨schema, hschema, rfl, rfl⟩)) p hp hlog
      simpa [Journal.linesOf, String.append_eq_empty_iff] using hlines

/-- **The artifacts stand at their paths** after they have been written in order, exactly when the two
paths denote different places and the log spares them. -/
theorem standIn_appendTo_iff {base u : Tree}
    (h : base.writeFiles log journal (a.outputs c) = .ok u) (t' : Tree)
    (ht' : t' = u.appendTo log (journal.lines .finished)) :
    a.StandIn c t' ↔
      (a.sqlText?.isSome = true → a.schemaText?.isSome = true →
        ∀ p, t'.locate c.sqlPath = .ok p → t'.locate c.schemaPath ≠ .ok p) ∧
      a.LogSpares c journal log t' := by
  subst ht'
  have hsame := Tree.sameDirectories_of_writeFiles h (journal.lines .finished)
  rw [standIn_iff, Tree.read_of_writeFiles_iff h,
    outputs_apart_iff fun path p => base.locate path = .ok p, logSpares_iff]
  simp only [Ne, hsame.locate_eq_ok_iff]
  -- Where the two paths lead to different places, every file is the last at its own.
  refine and_congr_right fun hapart => ⟨?_, ?_⟩
  · intro hsilent f rest hsuffix p hp
    refine hsilent f rest hsuffix p hp fun g hg hgp => ?_
    obtain ⟨hsql, hschema, hf, hg⟩ := of_mem_later hsuffix hg
    exact hapart hsql hschema p (hf ▸ hp) (hg ▸ hgp)
  · exact fun hsilent f rest hsuffix p hp _ => hsilent f rest hsuffix p hp

end Artifacts

/-- A working directory with a schema document in it. -/
def Files.Tree.desk : Tree := .ofFiles ["work"] [("schema.graphql", "type A \x7b id: ID! \x7d")]

/-! ### Runs that fail -/

namespace Program

variable {readers : Readers} {env : Environment} {arguments : List String}

/-- The log of the run is at this place when it ends. -/
def LogsAt (readers : Readers) (journal : Journal) (t : Tree) (env : Environment)
    (arguments : List String) (t' : Tree) (p : Files.Place) : Prop :=
  ∃ own o c, Configured readers t env arguments own o c ∧ IsLog journal c.logging t' (some p)

/-- The run is bound to be stranded between writing the two artifacts. -/
def Stranded (readers : Readers) (journal : Journal) (t : Tree) (env : Environment)
    (arguments : List String) (log : Option Files.Place) : Prop :=
  ∃ o c opened source a base p script,
    Compiled readers journal t env arguments o c log opened source a ∧ o.has .check = false ∧
      a.Strands c.output log (opened.appendTo log (journal.lines (.compiling source))) base p script

/-- When the artifacts are written, a run has created directories and written its log, and changed
nothing else. -/
theorem Compiled.extends {o : CommandLine.Options} {c : Config} {opened : Tree} {source : String}
    {a : Artifacts} (h : Compiled readers journal t env arguments o c log opened source a) :
    t.Extends log (opened.appendTo log (journal.lines (.compiling source))) :=
  h.started.extends.1.trans (Tree.extends_appendTo opened log _)

/-- A run that is stranded has changed a file. -/
theorem Stranded.not_extends (h : Stranded readers journal t env arguments log) :
    ¬ t.Extends log (run Tree.system readers journal env arguments t).2 := by
  obtain ⟨o, c, opened, source, a, base, p, script, hcompiled, hcheck, hstrands⟩ := h
  obtain ⟨fault, hwrite⟩ := Artifacts.write_of_strands hstrands journal
  have hnot := hstrands.not_extends journal hcompiled.extends
  rw [run_of_compiled hcompiled hcheck hwrite]
  rwa [hwrite] at hnot

/-- The log of a run that has started is at its place when the run ends. -/
theorem Started.logsAt {o : CommandLine.Options} {c : Config} {opened : Tree}
    (h : Started readers journal t env arguments o c log opened) (hkeeps : opened.KeepsDirectories t') :
    ∀ p ∈ log, LogsAt readers journal t env arguments t' p := by
  rintro p rfl
  obtain ⟨own, -, -, hconfigured, -⟩ := h.logged
  exact ⟨own, o, c, hconfigured, h.extends.2.mono hkeeps⟩

/-- **Failure changes no file** exactly when it does not come between the two artifacts: neither
when writing some artifacts fails nor when a whole run does, from whatever tree, environment and
command line, where the log is left aside. -/
theorem failure_spares_files_iff (readers : Readers) (journal : Journal) (t t' : Tree) :
    (∀ (log : Option Files.Place) (a : Artifacts) (c : OutputConfig) (e : PipelineError),
      a.write Tree.system (journal.note Tree.system log) c t = (.error e, t') →
        (t.Extends log t' ↔ ¬ ∃ base p script, a.Strands c log t base p script)) ∧
    ∀ (env : Environment) (arguments : List String) (outcome : Outcome),
      run Tree.system readers journal env arguments t = (outcome, t') → outcome.exitCode ≠ 0 →
        ∃ log : Option Files.Place, (∀ p ∈ log, LogsAt readers journal t env arguments t' p) ∧
          (t.Extends log t' ↔ ¬ Stranded readers journal t env arguments log) := by
  refine ⟨fun log a c e h => Artifacts.write_error_iff h, ?_⟩
  intro env arguments outcome h hfail
  -- A stranded run changes a file, so that only the end at which writing fails is left to compare.
  have hstranded : ∀ log, t.Extends log t' → ¬ Stranded readers journal t env arguments log :=
    fun log hextends hstranded => hstranded.not_extends (by rwa [h])
  have hspared : ∀ log, t.Extends log t' →
      (t.Extends log t' ↔ ¬ Stranded readers journal t env arguments log) := fun log hextends =>
    iff_of_true hextends (hstranded log hextends)
  have hunlogged : t.Extends none t' →
      ∃ log : Option Files.Place, (∀ p ∈ log, LogsAt readers journal t env arguments t' p) ∧
        (t.Extends log t' ↔ ¬ Stranded readers journal t env arguments log) := fun hextends =>
    ⟨none, nofun, hspared none hextends⟩
  cases course_of_run h with
  | unsettled => exact hunlogged (.refl none t)
  | informed => exact absurd rfl hfail
  | refused => exact hunlogged (.refl none t)
  | unconfigured => exact hunlogged (.refl none t)
  | unexported => exact hunlogged (.refl none t)
  | unlogged hc hexport hstart =>
      rcases startLog_apply hexport hstart with ⟨log, hok, -⟩ | ⟨fault, -, hextends⟩
      · cases hok
      · exact hunlogged hextends
  | @uncompiled o c log e opened _ hs hfile =>
      have hextends := Artifacts.extends_compileFile opened journal log c.schema (targets o)
      rw [hfile] at hextends
      exact ⟨log, hs.logsAt hextends.toKeepsDirectories, hspared log (hs.extends.1.trans hextends)⟩
  | checked => exact absurd rfl hfail
  | @unwritten o c log source a e opened _ hcompiled hcheck hwrite =>
      have hkeeps : opened.KeepsDirectories t' :=
        (Tree.sameDirectories_appendTo opened log _).1.trans
          (Artifacts.keepsDirectories_of_write hwrite)
      refine ⟨log, hcompiled.started.logsAt hkeeps, hstranded log, fun hnot => ?_⟩
      refine hcompiled.extends.trans ((Artifacts.write_error_iff hwrite).mpr ?_)
      rintro ⟨base, p, script, hstrands⟩
      exact hnot ⟨o, c, opened, source, a, base, p, script, hcompiled, hcheck, hstrands⟩
  | written => exact absurd rfl hfail

/-- A run that only wants the script, and has a file where its output directory should be, fails and
leaves the desk as it was. -/
theorem desk_spared :
    ∃ outcome t' log, run Tree.system .standard (.silent "1970-01-01") []
        ["--sql-only", "-o", "schema.graphql"] .desk = (outcome, t') ∧ outcome.exitCode ≠ 0 ∧
      (∀ p ∈ log, LogsAt .standard (.silent "1970-01-01") .desk []
        ["--sql-only", "-o", "schema.graphql"] t' p) ∧
      Tree.desk.Extends log t' := by
  have hfail : (run Tree.system .standard (.silent "1970-01-01") []
      ["--sql-only", "-o", "schema.graphql"] .desk).1.exitCode ≠ 0 := by decide +kernel
  have hparse : CommandLine.parse ["--sql-only", "-o", "schema.graphql"] =
      .run { values := [(.outDir, "schema.graphql")], switches := [.sqlOnly] } := by decide +kernel
  have hrun := (Prod.eta (run Tree.system .standard (.silent "1970-01-01") []
    ["--sql-only", "-o", "schema.graphql"] .desk)).symm
  obtain ⟨log, hlogs, hiff⟩ := (failure_spares_files_iff _ _ _ _).2 _ _ _ hrun hfail
  refine ⟨_, _, log, hrun, hfail, hlogs, hiff.mpr ?_⟩
  rintro ⟨o, c, opened, source, a, base, p, script, hcompiled, -, hstrands⟩
  obtain ⟨own, -, -, hconfigured, -⟩ := hcompiled.started.logged
  have ho := CommandLine.Choice.run.inj (hparse.symm.trans hconfigured.parsed)
  subst ho
  have hschema := (Artifacts.wanted_of_compile hcompiled.compiled).2
  rw [hstrands.schemaText] at hschema
  exact absurd hschema (by decide)

/-- A run whose API schema belongs into a directory that is not there fails, and leaves a script
where nothing stood. -/
theorem desk_stranded :
    ∃ outcome t' text, outcome.exitCode ≠ 0 ∧
      run Tree.system .standard (.silent "1970-01-01")
        [("SCHEMAGEN_GRAPHQL_FILE", "missing/schema.graphql")] [] .desk = (outcome, t') ∧
      Tree.desk.read "./generated/schema.sql" = .error .notFound ∧
      t'.read "./generated/schema.sql" = .ok text := by
  have hfail : (run Tree.system .standard (.silent "1970-01-01")
      [("SCHEMAGEN_GRAPHQL_FILE", "missing/schema.graphql")] [] .desk).1.exitCode ≠ 0 := by
    decide +kernel
  have hread : ((run Tree.system .standard (.silent "1970-01-01")
      [("SCHEMAGEN_GRAPHQL_FILE", "missing/schema.graphql")] []
      .desk).2.read "./generated/schema.sql").toOption.isSome = true := by decide +kernel
  obtain ⟨text, htext⟩ := Option.isSome_iff_exists.mp hread
  exact ⟨_, _, text, hfail, (Prod.eta _).symm, by rfl, Except.toOption_eq_some_iff.mp htext⟩

/-! ### Runs that succeed -/

/-- **What a run that succeeds has written, and where**: it has written exactly the artifacts that
are wanted, at the paths of its configuration. Each stands there in full exactly when the paths of
two artifacts denote different places and nothing is told after an artifact in the place of the log.
What stood anywhere before, the log left aside, stands there exactly when no artifact with another
text is left in its place, and so does the schema document. -/
theorem success_places_artifacts {o : CommandLine.Options}
    (h : run Tree.system readers journal env arguments t = (.success, t'))
    (ho : readers.choice arguments = .run o) (hcheck : o.has .check = false) :
    ∃ c log opened source a written,
      Compiled readers journal t env arguments o c log opened source a ∧
      IsLog journal c.logging t' log ∧
      a.sqlText?.isSome = (targets o).wantSql ∧ a.schemaText?.isSome = (targets o).wantSchema ∧
      a.write Tree.system (journal.note Tree.system log) c.output
          (opened.appendTo log (journal.lines (.compiling source))) =
        (.ok ((if (targets o).wantSql then [c.output.sqlPath] else []) ++
          if (targets o).wantSchema then [c.output.schemaPath] else []), written) ∧
      t' = written.appendTo log (journal.lines .finished) ∧
      (a.StandIn c.output t' ↔
        ((targets o).wantSql = true → (targets o).wantSchema = true →
          ∀ p, t'.locate c.output.sqlPath = .ok p → t'.locate c.output.schemaPath ≠ .ok p) ∧
        a.LogSpares c.output journal log t') ∧
      (∀ p e, log ≠ some p → t.at? p = some e →
        (t'.at? p = some e ↔ ∀ text, a.Leaves c.output t' p text → e = .file text)) ∧
      ∃ p, t'.locate c.schema = .ok p ∧ (log ≠ some p → t.at? p = some (.file source) ∧
        (t'.read c.schema = .ok source ↔ ∀ text, a.Leaves c.output t' p text → text = source)) := by
  generalize houtcome : Outcome.success = outcome at h
  cases course_of_run h with
  | unsettled => cases houtcome
  | informed => cases houtcome
  | refused => cases houtcome
  | unconfigured => cases houtcome
  | unexported => cases houtcome
  | unlogged => cases houtcome
  | uncompiled => exact absurd houtcome.symm (failureOf_ne_success _ _)
  | unwritten => exact absurd houtcome.symm (failureOf_ne_success _ _)
  | checked hcompiled hchecked =>
      obtain ⟨own, -, -, hconfigured, -⟩ := hcompiled.started.logged
      obtain rfl := CommandLine.Choice.run.inj (ho.symm.trans hconfigured.parsed)
      cases hcheck.symm.trans hchecked
  | @written o' c log source a paths opened u hcompiled _ hwrite =>
      obtain ⟨own, -, -, hconfigured, -⟩ := hcompiled.started.logged
      obtain rfl := CommandLine.Choice.run.inj (ho.symm.trans hconfigured.parsed)
      obtain ⟨hsql, hschema⟩ := Artifacts.wanted_of_compile hcompiled.compiled
      obtain ⟨hpaths, base, hbase, hfiles⟩ := Artifacts.write_ok hwrite
      rw [Artifacts.map_fst_outputs, hsql, hschema] at hpaths
      obtain ⟨hopened, hisLog⟩ := hcompiled.started.extends
      have hready : opened.Extends log base := (Tree.extends_appendTo opened log _).trans hbase
      have hsame := Tree.sameDirectories_of_writeFiles hfiles (journal.lines .finished)
      have hkeeps := hready.toKeepsDirectories.trans hsame.1
      refine ⟨c, log, opened, source, a, u, hcompiled, hisLog.mono hkeeps, hsql, hschema,
        hpaths ▸ hwrite, rfl, ?_, fun p e hlog hp => ?_, ?_⟩
      · rw [← hsql, ← hschema]
        exact Artifacts.standIn_appendTo_iff hfiles _ rfl
      · simp only [← Artifacts.writtenAt?_outputs_eq_some_iff]
        exact Tree.at?_eq_some_iff_of_writeFiles hfiles _ (hopened.trans hready) hlog hp
      · obtain ⟨-, p, hp, hat⟩ := Tree.read_eq_ok_iff.mp hcompiled.read
        refine ⟨p, Tree.locate_mono hkeeps hp, fun hlog => ⟨?_, ?_⟩⟩
        · exact (hopened.at?_eq_some_iff hlog (Entry.file_ne_directory source)).mp hat
        · simp only [← Artifacts.writtenAt?_outputs_eq_some_iff]
          exact Tree.read_eq_ok_iff_of_writeFiles hfiles _ hready hlog hcompiled.read hp

/-- A run without options leaves the script and the API schema of the desk at their paths. -/
theorem desk_artifacts_placed :
    ∃ (t' : Tree) (a : Artifacts) (script schema : String),
      run Tree.system .standard (.silent "1970-01-01") [] [] .desk = (.success, t') ∧
      a.sqlText? = some script ∧ t'.read "./generated/schema.sql" = .ok script ∧
      a.schemaText? = some schema ∧ t'.read "./generated/schema.graphql" = .ok schema := by
  have hsuccess : (run Tree.system .standard (.silent "1970-01-01") [] [] .desk).1 = .success := by
    decide +kernel
  have hparse : CommandLine.parse [] = .run {} := by decide +kernel
  have hsettings : settings .standard .desk [] = some [] := by decide +kernel
  have hconfig : (Config.discover Tree.system Config.parse? [] none .desk).1.toOption = some {} := by
    decide +kernel
  have hplaces : ((run Tree.system .standard (.silent "1970-01-01") [] []
      .desk).2.locate "./generated/schema.sql").toOption ≠
      ((run Tree.system .standard (.silent "1970-01-01") [] []
        .desk).2.locate "./generated/schema.graphql").toOption := by
    decide +kernel
  have hrun := Prod.fst_eq_iff.mp hsuccess
  -- The tree is not to be computed again.
  generalize (run Tree.system .standard (.silent "1970-01-01") [] [] .desk).2 = t' at hrun hplaces
  obtain ⟨c, log, opened, source, a, written, hcompiled, hisLog, hsql, hschema, -, -, hstand, -⟩ :=
    success_places_artifacts hrun hparse rfl
  obtain ⟨own, -, -, ⟨hown, -, found, hfound, hc⟩, -⟩ := hcompiled.started.logged
  obtain rfl := Option.some.inj (hsettings.symm.trans hown)
  have hdiscover : (Config.discover Tree.system Config.parse? [] none .desk).1 = .ok found := hfound
  rw [hdiscover] at hconfig
  obtain rfl := Option.some.inj hconfig
  have hdefault : adjust {} {} = {} := rfl
  obtain rfl : {} = c := hdefault.symm.trans hc
  have hsqlPath : OutputConfig.sqlPath {} = "./generated/schema.sql" := by decide +kernel
  have hschemaPath : OutputConfig.schemaPath {} = "./generated/schema.graphql" := by decide +kernel
  have hnone : log = none := hisLog.unwanted rfl
  obtain ⟨script, hscript⟩ := Option.isSome_iff_exists.mp hsql
  obtain ⟨schema, hschema⟩ := Option.isSome_iff_exists.mp hschema
  have hboth : a.StandIn {} t' := by
    refine hstand.mpr ⟨fun _ _ p hp hp' => hplaces ?_, fun _ _ _ hlog => ?_, fun _ _ _ hlog => ?_⟩
    · rw [hsqlPath] at hp
      rw [hschemaPath] at hp'
      exact congrArg Except.toOption (hp.trans hp'.symm)
    · cases hnone.symm.trans hlog
    · cases hnone.symm.trans hlog
  refine ⟨t', a, script, schema, hrun, hscript, ?_, hschema, ?_⟩
  · rw [← hsqlPath, hboth.1 script hscript]
  · rw [← hschemaPath, hboth.2 schema hschema]

/-- A run that writes into the working directory replaces the schema document, and one whose API
schema has the name of the script loses the script. Both succeed. -/
theorem desk_overwritten :
    (∃ t', run Tree.system .standard (.silent "1970-01-01") [] ["-o", "."] .desk = (.success, t') ∧
      t'.read "schema.graphql" ≠ Tree.desk.read "schema.graphql") ∧
    ∃ t' source a script,
      run Tree.system .standard (.silent "1970-01-01") [("SCHEMAGEN_GRAPHQL_FILE", "schema.sql")] []
        .desk = (.success, t') ∧
      Tree.desk.read "schema.graphql" = .ok source ∧
      Artifacts.compile source .both = .ok a ∧ a.sqlText? = some script ∧
      t'.read "./generated/schema.sql" ≠ .ok script := by
  constructor
  · have hsuccess : (run Tree.system .standard (.silent "1970-01-01") [] ["-o", "."] .desk).1 =
        .success := by decide +kernel
    have hread : ((run Tree.system .standard (.silent "1970-01-01") [] ["-o", "."]
        .desk).2.read "schema.graphql").toOption ≠
        (Tree.desk.read "schema.graphql").toOption := by decide +kernel
    exact ⟨_, Prod.fst_eq_iff.mp hsuccess, fun heq => hread (congrArg Except.toOption heq)⟩
  · have hsuccess : (run Tree.system .standard (.silent "1970-01-01")
        [("SCHEMAGEN_GRAPHQL_FILE", "schema.sql")] [] .desk).1 = .success := by decide +kernel
    have hsource : (Tree.desk.read "schema.graphql").toOption =
        some "type A \x7b id: ID! \x7d" := by decide +kernel
    have hscript : ((Artifacts.compile "type A \x7b id: ID! \x7d" .both).toOption.bind
        (·.sqlText?)).isSome = true := by decide +kernel
    have hread : ((run Tree.system .standard (.silent "1970-01-01")
        [("SCHEMAGEN_GRAPHQL_FILE", "schema.sql")] []
        .desk).2.read "./generated/schema.sql").toOption ≠
        (Artifacts.compile "type A \x7b id: ID! \x7d" .both).toOption.bind (·.sqlText?) := by
      decide +kernel
    obtain ⟨script, hscript⟩ := Option.isSome_iff_exists.mp hscript
    rw [hscript] at hread
    obtain ⟨a, ha, hscript⟩ := Option.bind_eq_some_iff.mp hscript
    refine ⟨_, _, a, script, Prod.fst_eq_iff.mp hsuccess, Except.toOption_eq_some_iff.mp hsource,
      Except.toOption_eq_some_iff.mp ha, hscript, fun heq => hread (congrArg Except.toOption heq)⟩

end Program

end DataModel
