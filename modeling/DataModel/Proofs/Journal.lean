import DataModel.Journal
import DataModel.Proofs.Files.Tree

/-!
# The log file of a run

What the journal of a run does to a file tree: the log file is opened once, and from then on every
event adds its lines at the end of whatever stands at the place of that file. No other file changes
and no path comes to denote another place.

## Main results

* `Journal.openFile_apply`: opening the log creates directories and the log file, and nothing else.
* `Files.Tree.at?_appendTo_of_ne`, `Files.Tree.at?_appendTo_of_file`: what stands anywhere after lines
  have been told.
-/

namespace DataModel

open Files

namespace Files.Tree

variable {t t' : Tree} {p : Place} {log : Option Place} {text : String}

/-- The tree with a text added to the log, if there is one. -/
def appendTo (t : Tree) (log : Option Place) (text : String) : Tree :=
  match log with
  | some p => t.append p text
  | none => t

/-- What stands outside the log is left alone. -/
theorem at?_appendTo_of_ne (t : Tree) (text : String) (h : log ≠ some p) :
    (t.appendTo log text).at? p = t.at? p := by
  cases log with
  | none => rfl
  | some q => exact at?_append_of_ne fun hpq => h (congrArg some hpq.symm)

/-- A text is added at the end of the log. -/
theorem at?_appendTo_of_file {before : String} (h : t.at? p = some (.file before)) (text : String) :
    (t.appendTo (some p) text).at? p = some (.file (before ++ text)) :=
  at?_append_of_file h

theorem sameDirectories_appendTo (t : Tree) (log : Option Place) (text : String) :
    t.SameDirectories (t.appendTo log text) := by
  cases log with
  | none => exact .refl t
  | some p => exact sameDirectories_append t p text

theorem extends_appendTo (t : Tree) (log : Option Place) (text : String) :
    t.Extends log (t.appendTo log text) :=
  ⟨(sameDirectories_appendTo t log text).1, fun _ hlog => .inl (at?_appendTo_of_ne t text hlog)⟩

end Files.Tree

namespace Journal

variable {t t' : Tree} {result : Except Fault Files.Place} {directory : String}

/-- The lines that tell of files which have been written. -/
def linesOf (j : Journal) (files : List (String × String)) : String :=
  String.join (files.map fun f => j.lines (.wrote f.1))

theorem linesOf_cons (j : Journal) (f : String × String) (rest : List (String × String)) :
    j.linesOf (f :: rest) = j.lines (.wrote f.1) ++ j.linesOf rest := by
  simp [linesOf, String.join_cons]

/-- Telling of an event adds its lines to the log. -/
theorem note_apply (j : Journal) (log : Option Files.Place) (e : Event) (t : Tree) :
    j.note Tree.system log e t = ((), t.appendTo log (j.lines e)) := by
  cases log <;> rfl

/-- **Opening the log** creates directories and the log file, and nothing else. -/
theorem openFile_apply {j : Journal} (h : j.openFile Tree.system directory t = (result, t')) :
    (∃ p, result = .ok p ∧ t.Extends (some p) t' ∧
        t'.locate (joinPath directory j.fileName) = .ok p) ∨
      ∃ fault, result = .error fault ∧ t.Extends none t' := by
  simp only [openFile, StateM.bind_apply, Tree.system_createDirectories] at h
  have hfirst := Tree.extends_createDirectories t directory
  generalize (t.createDirectories directory).2 = u at h hfirst
  cases hopen : Tree.system.openToAppend (joinPath directory j.fileName) u with
  | mk opened v =>
      simp only [hopen] at h
      rcases Tree.openToAppend_cases hopen with ⟨p, rfl, hextends, hlocate⟩ | ⟨fault, rfl, rfl⟩
      · obtain ⟨rfl, rfl⟩ := Prod.mk.inj h
        exact .inl ⟨p, rfl, (hfirst.of_none _).trans hextends, hlocate⟩
      · simp only [StateM.bind_apply, Tree.system_createDirectories] at h
        have hsecond := hfirst.trans
          (Tree.extends_createDirectories v (parentPath (joinPath directory j.fileName)))
        cases hcreate : v.createDirectories (parentPath (joinPath directory j.fileName)) with
        | mk created w =>
            rw [hcreate] at hsecond
            simp only [hcreate] at h
            cases created with
            | error fault' =>
                obtain ⟨rfl, rfl⟩ := Prod.mk.inj h
                exact .inr ⟨fault', rfl, hsecond⟩
            | ok _ =>
                rcases Tree.openToAppend_cases h with
                  ⟨p, rfl, hextends, hlocate⟩ | ⟨fault', rfl, rfl⟩
                · exact .inl ⟨p, rfl, (hsecond.of_none _).trans hextends, hlocate⟩
                · exact .inr ⟨fault', rfl, hsecond⟩

end Journal

end DataModel
