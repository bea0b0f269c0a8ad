import DataModel.Program
import DataModel.Proofs.Journal

/-!
# The course of a run

A run goes through stages, and the first that fails ends it: the settings, the command line and the
configuration are read, the log is opened, the schema document is compiled, and the artifacts are
written. Only the log and writing touch files. `Program.Course` lists the ends that a run can come
to, each with the tree it leaves, so that what holds of every run is shown one end at a time.

Nothing here depends on how a command line, a file of settings or a configuration is read, nor on
what the log says.

## Main results

* `Program.Started.extends`: up to compiling, a run creates directories and writes its log, and
  changes nothing else.
* `Program.course_of_run`: **every run comes to one of these ends.**
* `Program.run_of_compiled`: a run that has compiled its schema document ends as writing does.
-/

namespace DataModel

open Files

variable {t t' opened : Tree} {env : Environment} {log : Option Files.Place}

/-! ### Reading -/

namespace Environment

/-- The setting that is put under a name is found there, and others as before. -/
theorem lookup_set (env : Environment) (name value other : String) :
    (env.set name value).lookup other = if other = name then some value else env.lookup other := by
  split
  case isTrue h =>
    subst h
    exact List.lookup_put_self env other value
  case isFalse h => exact List.lookup_put_of_ne env value h

/-- The same where the value can be set. -/
theorem lookup_of_set? {name value : String} {env' : Environment}
    (h : env.set? name value = some env') (other : String) :
    env'.lookup other = if other = name then some value else env.lookup other := by
  unfold set? at h
  split at h
  · cases h
  · obtain rfl := Option.some.inj h
    exact lookup_set env name value other

end Environment

namespace Config

variable (t : Tree) (parse : String → Option Config) (env : Environment)

/-- Looking for a configuration changes nothing. -/
theorem load_snd (path : String) : (load Tree.system parse env path t).2 = t := by
  simp only [load, StateM.bind_apply, Tree.system_read]
  cases t.read path with
  | error fault => rfl
  | ok text => cases h : parse text <;> simp only [h, StateM.pure_apply]

/-- Looking for a configuration changes nothing. -/
theorem discover_snd (path : Option String) :
    (discover Tree.system parse env path t).2 = t := by
  cases path with
  | some path => exact load_snd t parse env path
  | none =>
      simp only [discover, StateM.bind_apply, Tree.system_isRegular]
      cases t.isRegular defaultFile with
      | ok _ => exact load_snd t parse env defaultFile
      | error fault => rfl

/-- What the exported logging settings say. -/
theorem lookup_of_exportLogging {c : Config} {exported : Environment}
    (h : c.exportLogging env = some exported) :
    exported.lookup outputVariable = some c.logging.output ∧
      exported.lookup directoryVariable = some c.logging.directory := by
  simp only [exportLogging, Option.bind_eq_bind, Option.bind_eq_some_iff] at h
  obtain ⟨e₁, -, e₂, -, e₃, h₃, h₄⟩ := h
  simp [Environment.lookup_of_set? h₄, Environment.lookup_of_set? h₃, outputVariable,
    directoryVariable]

end Config

/-- What compiling a file gives, and what it tells. -/
theorem Artifacts.compileFile_apply (t : Tree) (journal : Journal) (log : Option Files.Place)
    (path : String) (targets : Targets) :
    Artifacts.compileFile Tree.system (journal.note Tree.system log) path targets t =
      match t.read path with
      | .error fault => (.error (.unreadable path fault), t)
      | .ok source => ((Artifacts.compile source targets).mapError .compile,
          t.appendTo log (journal.lines (.compiling source))) := by
  simp only [Artifacts.compileFile, StateM.bind_apply, Tree.system_read]
  cases t.read path with
  | error fault => rfl
  | ok source => simp only [StateM.bind_apply, Journal.note_apply, StateM.pure_apply]

/-- Compiling a file changes nothing but the log. -/
theorem Artifacts.extends_compileFile (t : Tree) (journal : Journal) (log : Option Files.Place)
    (path : String) (targets : Targets) :
    t.Extends log
      (Artifacts.compileFile Tree.system (journal.note Tree.system log) path targets t).2 := by
  rw [Artifacts.compileFile_apply]
  split
  · exact .refl log t
  · exact Tree.extends_appendTo t log _

namespace Program

/-! ### The settings -/

section Settings

variable (readers : Readers) (t : Tree) (env : Environment)

/-- Looking for settings changes nothing. -/
theorem findSettings_snd (directories : List String) :
    (findSettings Tree.system directories t).2 = t := by
  induction directories with
  | nil => rfl
  | cons directory rest ih =>
      simp only [findSettings, StateM.bind_apply, Tree.system_isRegular]
      cases t.isRegular (joinPath directory settingsFile) with
      | ok isFile =>
          cases isFile with
          | true => rfl
          | false => exact ih
      | error fault =>
          by_cases hmissing : fault = .notFound
          · simpa only [if_pos hmissing] using ih
          · simp only [if_neg hmissing, StateM.pure_apply]

/-- The environment with the settings from the file. -/
def settings : Option Environment := (loadSettings Tree.system readers env t).1

/-- Reading settings changes nothing. -/
theorem loadSettings_apply : loadSettings Tree.system readers env t = (settings readers t env, t) := by
  refine Prod.ext rfl ?_
  have hdirectory : (Tree.system.workingDirectory t).2 = t := rfl
  simp only [loadSettings, StateM.bind_apply, hdirectory, findSettings_snd]
  cases (findSettings Tree.system (withParents (Tree.system.workingDirectory t).1) t).1 with
  | none => rfl
  | some path =>
      simp only [StateM.bind_apply, Tree.system_readLines]
      cases t.readLines path <;> rfl

end Settings

/-! ### The log -/

/-- Where the log of a run is, if it has one: at the path that the logging settings give it. -/
structure IsLog (journal : Journal) (l : LoggingConfig) (t : Tree) (log : Option Files.Place) :
    Prop where
  unwanted : LogOutput.ofSetting (some l.output) = .stdout → log = none
  place : ∀ p ∈ log, t.locate (joinPath l.directory journal.fileName) = .ok p

/-- The log stays where it is as long as directories stay directories. -/
theorem IsLog.mono {journal : Journal} {l : LoggingConfig} (h : IsLog journal l t log)
    (hkeeps : t.KeepsDirectories t') : IsLog journal l t' log :=
  ⟨h.unwanted, fun p hp => Tree.locate_mono hkeeps (h.place p hp)⟩

/-- **Starting the log** creates directories and the log file, and nothing else. -/
theorem startLog_apply {journal : Journal} {c : Config} {exported : Environment}
    {result : Except Fault (Option Files.Place)} (hexport : c.exportLogging env = some exported)
    (h : startLog Tree.system journal exported t = (result, t')) :
    (∃ log, result = .ok log ∧ t.Extends log t' ∧ IsLog journal c.logging t' log) ∨
      ∃ fault, result = .error fault ∧ t.Extends none t' := by
  obtain ⟨houtput, hdirectory⟩ := Config.lookup_of_exportLogging env hexport
  simp only [startLog, Config.logOutput, houtput, hdirectory, Option.getD_some] at h
  by_cases hstdout : LogOutput.ofSetting (some c.logging.output) = .stdout
  · simp only [hstdout, StateM.pure_apply] at h
    obtain ⟨rfl, rfl⟩ := Prod.mk.inj h
    exact .inl ⟨none, rfl, .refl none t, fun _ => rfl, nofun⟩
  · have hopen : ((journal.openFile Tree.system c.logging.directory t).1.map some,
        (journal.openFile Tree.system c.logging.directory t).2) = (result, t') := by
      cases hsetting : LogOutput.ofSetting (some c.logging.output) with
      | stdout => exact absurd hsetting hstdout
      | file => simpa only [hsetting, StateM.bind_apply, StateM.pure_apply] using h
      | both => simpa only [hsetting, StateM.bind_apply, StateM.pure_apply] using h
    obtain ⟨rfl, rfl⟩ := Prod.mk.inj hopen
    rcases Journal.openFile_apply (Prod.eta _).symm with
      ⟨p, hp, hextends, hlocate⟩ | ⟨fault, hfault, hextends⟩
    · refine .inl ⟨some p, by rw [hp]; rfl, hextends, fun h => absurd h hstdout, ?_⟩
      rintro _ ⟨⟩
      exact hlocate
    · exact .inr ⟨fault, by rw [hfault]; rfl, hextends⟩

/-! ### The stages of a run -/

section Stages

variable (readers : Readers) (journal : Journal) (t : Tree) (env : Environment)
  (arguments : List String)

/-- The command line asks for a run with options for which a configuration is found, in the
environment with its settings. -/
structure Configured (own : Environment) (o : CommandLine.Options) (c : Config) : Prop where
  settled : settings readers t env = some own
  parsed : readers.choice arguments = .run o
  found : ∃ found, (Config.discover Tree.system readers.config own (o.value? .config) t).1 =
    .ok found ∧ adjust found o = c

/-- The run has opened its log, if it wants one, and has told of it. -/
structure Started (o : CommandLine.Options) (c : Config) (log : Option Files.Place) (opened : Tree) :
    Prop where
  logged : ∃ own exported u, Configured readers t env arguments own o c ∧
    c.exportLogging own = some exported ∧ startLog Tree.system journal exported t = (.ok log, u) ∧
    u.appendTo log (journal.lines .started) = opened

/-- The run compiles the schema document that stands there then. -/
structure Compiled (o : CommandLine.Options) (c : Config) (log : Option Files.Place) (opened : Tree)
    (source : String) (a : Artifacts) : Prop where
  started : Started readers journal t env arguments o c log opened
  read : opened.read c.schema = .ok source
  compiled : Artifacts.compile source (targets o) = .ok a

/-- How a run ends, with the tree that it leaves. -/
inductive Course : Outcome → Tree → Prop
  | unsettled : settings readers t env = none → Course .aborted t
  | informed : readers.choice arguments = .inform → Course .informed t
  | refused : readers.choice arguments = .refuse → Course .usage t
  | unconfigured {own : Environment} {o : CommandLine.Options} {e : ConfigError} :
      settings readers t env = some own → readers.choice arguments = .run o →
      (Config.discover Tree.system readers.config own (o.value? .config) t).1 = .error e →
      Course (.failure (configReport e)) t
  | unexported {own : Environment} {o : CommandLine.Options} {c : Config} :
      Configured readers t env arguments own o c → c.exportLogging own = none → Course .aborted t
  | unlogged {own exported : Environment} {o : CommandLine.Options} {c : Config} {fault : Fault}
      {t' : Tree} :
      Configured readers t env arguments own o c → c.exportLogging own = some exported →
      startLog Tree.system journal exported t = (.error fault, t') → Course .aborted t'
  | uncompiled {o : CommandLine.Options} {c : Config} {log : Option Files.Place} {e : PipelineError}
      {opened t' : Tree} :
      Started readers journal t env arguments o c log opened →
      Artifacts.compileFile Tree.system (journal.note Tree.system log) c.schema (targets o) opened =
        (.error e, t') →
      Course (failureOf (some ("compiling " ++ c.schema)) e) t'
  | checked {o : CommandLine.Options} {c : Config} {log : Option Files.Place} {source : String}
      {a : Artifacts} {opened : Tree} :
      Compiled readers journal t env arguments o c log opened source a → o.has .check = true →
      Course .success
        ((opened.appendTo log (journal.lines (.compiling source))).appendTo log
          (journal.lines .finished))
  | unwritten {o : CommandLine.Options} {c : Config} {log : Option Files.Place} {source : String}
      {a : Artifacts} {e : PipelineError} {opened t' : Tree} :
      Compiled readers journal t env arguments o c log opened source a → o.has .check = false →
      a.write Tree.system (journal.note Tree.system log) c.output
        (opened.appendTo log (journal.lines (.compiling source))) = (.error e, t') →
      Course (failureOf none e) t'
  | written {o : CommandLine.Options} {c : Config} {log : Option Files.Place} {source : String}
      {a : Artifacts} {paths : List String} {opened u : Tree} :
      Compiled readers journal t env arguments o c log opened source a → o.has .check = false →
      a.write Tree.system (journal.note Tree.system log) c.output
        (opened.appendTo log (journal.lines (.compiling source))) = (.ok paths, u) →
      Course .success (u.appendTo log (journal.lines .finished))

end Stages

variable {readers : Readers} {journal : Journal} {arguments : List String} {outcome : Outcome}
  {o : CommandLine.Options} {c : Config} {source : String} {a : Artifacts}

/-- **Up to compiling**, a run creates directories and writes its log, and changes nothing else. -/
theorem Started.extends (h : Started readers journal t env arguments o c log opened) :
    t.Extends log opened ∧ IsLog journal c.logging opened log := by
  obtain ⟨own, exported, u, -, hexport, hstart, rfl⟩ := h.logged
  rcases startLog_apply hexport hstart with ⟨log', hlog, hextends, hisLog⟩ | ⟨fault, hfault, -⟩
  · obtain rfl := Except.ok.inj hlog
    have htold := Tree.extends_appendTo u log (journal.lines .started)
    exact ⟨hextends.trans htold, hisLog.mono htold.toKeepsDirectories⟩
  · cases hfault

/-- A run that has read its configuration and opened its log comes to one of the later ends. -/
theorem course_of_compileAndWrite (hs : Started readers journal t env arguments o c log opened)
    (h : compileAndWrite Tree.system journal log c o opened = (outcome, t')) :
    Course readers journal t env arguments outcome t' := by
  have hfile := Artifacts.compileFile_apply opened journal log c.schema (targets o)
  simp only [compileAndWrite, StateM.bind_apply, hfile] at h
  cases hread : opened.read c.schema with
  | error fault =>
      simp only [hread] at h hfile
      obtain ⟨rfl, rfl⟩ := Prod.mk.inj h
      exact .uncompiled hs hfile
  | ok source =>
      simp only [hread] at h hfile
      cases hcompile : Artifacts.compile source (targets o) with
      | error e =>
          simp only [hcompile, Except.mapError] at h hfile
          obtain ⟨rfl, rfl⟩ := Prod.mk.inj h
          exact .uncompiled hs hfile
      | ok a =>
          have hcompiled : Compiled readers journal t env arguments o c log opened source a :=
            ⟨hs, hread, hcompile⟩
          simp only [hcompile, Except.mapError] at h
          cases hcheck : o.has .check with
          | true =>
              simp only [hcheck, if_true, StateM.bind_apply, Journal.note_apply,
                StateM.pure_apply] at h
              obtain ⟨rfl, rfl⟩ := Prod.mk.inj h
              exact .checked hcompiled hcheck
          | false =>
              simp only [hcheck, Bool.false_eq_true, if_false, StateM.bind_apply] at h
              cases hwrite : a.write Tree.system (journal.note Tree.system log) c.output
                (opened.appendTo log (journal.lines (.compiling source))) with
              | mk result written =>
                  simp only [hwrite] at h
                  cases result with
                  | error e =>
                      obtain ⟨rfl, rfl⟩ := Prod.mk.inj h
                      exact .unwritten hcompiled hcheck hwrite
                  | ok paths =>
                      simp only [StateM.bind_apply, Journal.note_apply, StateM.pure_apply] at h
                      obtain ⟨rfl, rfl⟩ := Prod.mk.inj h
                      exact .written hcompiled hcheck hwrite

/-- A run that has read its configuration comes to one of the later ends. -/
theorem course_of_runConfigured {own : Environment}
    (hc : Configured readers t env arguments own o c)
    (h : runConfigured Tree.system journal own c o t = (outcome, t')) :
    Course readers journal t env arguments outcome t' := by
  unfold runConfigured at h
  cases hexport : c.exportLogging own with
  | none =>
      simp only [hexport, StateM.pure_apply] at h
      obtain ⟨rfl, rfl⟩ := Prod.mk.inj h
      exact .unexported hc hexport
  | some exported =>
      simp only [hexport, StateM.bind_apply] at h
      cases hstart : startLog Tree.system journal exported t with
      | mk result u =>
          simp only [hstart] at h
          cases result with
          | error fault =>
              obtain ⟨rfl, rfl⟩ := Prod.mk.inj h
              exact .unlogged hc hexport hstart
          | ok log =>
              simp only [StateM.bind_apply, Journal.note_apply] at h
              exact course_of_compileAndWrite ⟨own, exported, u, hc, hexport, hstart, rfl⟩ h

/-- **Every run comes to one of these ends.** -/
theorem course_of_run (h : run Tree.system readers journal env arguments t = (outcome, t')) :
    Course readers journal t env arguments outcome t' := by
  simp only [run, StateM.bind_apply, loadSettings_apply] at h
  cases hsettings : settings readers t env with
  | none =>
      simp only [hsettings, StateM.pure_apply] at h
      obtain ⟨rfl, rfl⟩ := Prod.mk.inj h
      exact .unsettled hsettings
  | some own =>
      simp only [hsettings] at h
      cases hparse : readers.choice arguments with
      | inform =>
          simp only [hparse, StateM.pure_apply] at h
          obtain ⟨rfl, rfl⟩ := Prod.mk.inj h
          exact .informed hparse
      | refuse =>
          simp only [hparse, StateM.pure_apply] at h
          obtain ⟨rfl, rfl⟩ := Prod.mk.inj h
          exact .refused hparse
      | run o =>
          simp only [hparse, StateM.bind_apply, Config.discover_snd] at h
          cases hfound : (Config.discover Tree.system readers.config own (o.value? .config) t).1 with
          | error e =>
              simp only [hfound, StateM.pure_apply] at h
              obtain ⟨rfl, rfl⟩ := Prod.mk.inj h
              exact .unconfigured hsettings hparse hfound
          | ok found =>
              simp only [hfound] at h
              exact course_of_runConfigured ⟨hsettings, hparse, found, hfound, rfl⟩ h

/-- **A run that compiles** ends as writing the artifacts does. -/
theorem run_of_compiled (h : Compiled readers journal t env arguments o c log opened source a)
    (hcheck : o.has .check = false) {result : Except PipelineError (List String)}
    (hwrite : a.write Tree.system (journal.note Tree.system log) c.output
      (opened.appendTo log (journal.lines (.compiling source))) = (result, t')) :
    run Tree.system readers journal env arguments t =
      match result with
      | .error e => (failureOf none e, t')
      | .ok _ => (.success, t'.appendTo log (journal.lines .finished)) := by
  obtain ⟨⟨own, exported, u, ⟨hsettings, hparse, found, hfound, rfl⟩, hexport, hstart, rfl⟩, hread,
    hcompile⟩ := h
  simp only [run, runConfigured, compileAndWrite, StateM.bind_apply, loadSettings_apply, hsettings,
    hparse, Config.discover_snd, hfound, hexport, hstart, Journal.note_apply,
    Artifacts.compileFile_apply, hread, hcompile, Except.mapError, hcheck, Bool.false_eq_true,
    if_false, hwrite]
  cases result with
  | error e => rfl
  | ok paths => simp only [StateM.bind_apply, Journal.note_apply, StateM.pure_apply]

/-- An error of the pipeline is never a success. -/
theorem failureOf_ne_success (context : Option String) (e : PipelineError) :
    failureOf context e ≠ .success := by
  unfold failureOf
  split
  · nofun
  · cases context <;> nofun

end Program

end DataModel
