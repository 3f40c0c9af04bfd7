import DatasetLint.Proofs.Check.Independence
import DatasetLint.Proofs.Config.Precedence
import DatasetLint.Proofs.Problems.History
import DatasetLint.Proofs.Report.RoundTrip
import DatasetLint.Proofs.Run.ExitCode
import DatasetLint.Proofs.Run.Shares

/-!
# The report file of a run

A run that leaves a problem replaces the report in its output directory. A run that leaves none does not look at
that directory, so that a report from before stays: over runs in turn the report is that of the last run that
left a problem.
-/

namespace DatasetLint

namespace Linter

open Dataset (oneFile)

/-- Where a run with the parameters `p` leaves its report. -/
def reportPath (p : Config.Parameters) : String := Files.Path.join p.output Report.Document.fileName

/-- `leaveReport` notices nothing but a `.warning`. -/
theorem warning_of_leaveReport {directory : String} {s s' : Files.FileSystem} {found : ProblemTable} {n : Notice}
    (h : leaveReport directory s found = (s', some n)) : ∃ m, n = .warning m := by
  rw [leaveReport] at h
  split at h
  · split at h
    · cases h
    · cases h
      exact ⟨_, rfl⟩
  · cases h

/-- Without a notice the report is written, or there is nothing to report and `s` stays. -/
theorem leaveReport_cases {directory : String} {s s' : Files.FileSystem} {found : ProblemTable}
    (h : leaveReport directory s found = (s', none)) :
    (found.anyProblem = true ∧ ∃ path, Report.Document.write found directory s = (s', .ok path)) ∨
      (found.anyProblem = false ∧ s' = s) := by
  rw [leaveReport] at h
  split at h
  · rename_i hany
    split at h
    · rename_i hwrite
      cases h
      exact .inl ⟨hany, _, hwrite⟩
    · cases h
  · rename_i hany
    cases h
    exact .inr ⟨by simpa using hany, rfl⟩

section Execute

variable {l : Linter} {color : Bool} {o : Options} {s : Files.FileSystem} {r : Outcome} {p : Config.Parameters}
  {entries : List Suppression}

/-- The only warning of a run is the one of `leaveReport`. -/
theorem warning_not_mem_notices_iff (hr : l.execute color o s = .ok r) (hload : load o s = .ok (p, entries)) :
    (∀ m, Notice.warning m ∉ r.notices) ↔ (leaveReport p.output s (l.remaining p entries s)).2 = none := by
  obtain ⟨text, htext⟩ := reportText_eq_ok color o p.target s (l.remaining p entries s)
  rw [execute_of_load_eq_ok hload] at hr
  simp only [conclude, htext] at hr
  have hannounce : ∀ m, Notice.warning m ≠ announce o text (l.remaining p entries s) := by
    intro m
    rw [announce]
    split <;> intro h <;> cases h
  cases hleave : leaveReport p.output s (l.remaining p entries s) with
  | mk s' complaint =>
    rw [hleave] at hr
    cases hr
    cases complaint with
    | none => simp [hannounce]
    | some n =>
      obtain ⟨m, rfl⟩ := warning_of_leaveReport hleave
      exact ⟨fun h => (h m (List.mem_cons_of_mem _ (List.mem_singleton_self _))).elim, fun h => by cases h⟩

/-- A run without warnings leaves the report of what is `remaining` at `reportPath p`, or nothing is left and the
files stay `s`. -/
theorem report_of_execute (hr : l.execute color o s = .ok r) (hload : load o s = .ok (p, entries))
    (hwarning : ∀ m, Notice.warning m ∉ r.notices) :
    ((l.remaining p entries s).anyProblem = true ∧
        r.files.readText (reportPath p) = .ok (Report.Document.render (l.remaining p entries s))) ∨
      ((l.remaining p entries s).anyProblem = false ∧ r.files = s) := by
  have hnone := (warning_not_mem_notices_iff hr hload).1 hwarning
  have hleave : leaveReport p.output s (l.remaining p entries s) = (r.files, none) :=
    Prod.ext (eq_of_conclude hr hload).2.symm hnone
  rcases leaveReport_cases hleave with ⟨hany, path, hwrite⟩ | hkept
  · rw [Report.Document.path_of_write hwrite] at hwrite
    exact .inl ⟨hany, Report.Document.readText_write hwrite⟩
  · exact .inr hkept

end Execute

/-! ## Runs in turn -/

/-- Runs of `l` in turn that do not warn and have their report at `path`, from the files `s` on: what each of them
left, the last one first. Between runs, files may be changed, but not what is read at `path`. -/
inductive Runs (l : Linter) (path : String) (s : Files.FileSystem) : List ProblemTable → Files.FileSystem → Prop
  | start : Runs l path s [] s
  | run {founds : List ProblemTable} {t : Files.FileSystem} {color : Bool} {o : Options} {r : Outcome}
    {p : Config.Parameters} {entries : List Suppression} (before : Runs l path s founds t)
    (hr : l.execute color o t = .ok r) (hload : load o t = .ok (p, entries)) (hpath : reportPath p = path)
    (hwarning : ∀ m, Notice.warning m ∉ r.notices) : Runs l path s (l.remaining p entries t :: founds) r.files
  | change {founds : List ProblemTable} {t u : Files.FileSystem} (before : Runs l path s founds t)
    (hkept : u.readText path = t.readText path) : Runs l path s founds u

/-- The report is that of the last run that left a problem; before there is such a run it is what it was in `s`. -/
theorem Runs.report {l : Linter} {path : String} {s t : Files.FileSystem} {founds : List ProblemTable}
    (h : Runs l path s founds t) : t.readText path =
      match founds.find? (·.anyProblem) with
      | some found => .ok (Report.Document.render found)
      | none => s.readText path := by
  induction h with
  | start => rfl
  | run before hr hload hpath hwarning ih =>
    subst hpath
    rcases report_of_execute hr hload hwarning with ⟨hany, hreport⟩ | ⟨hnone, hfiles⟩
    · rw [hreport, List.find?_cons_of_pos hany]
    · rw [hfiles, ih, List.find?_cons_of_neg (by simp [hnone])]
  | change before hkept ih => rw [hkept, ih]

/-! ## A working directory with one file -/

section OneFile

open Files Dataset

variable {name text : String}

end OneFile

/-! ## The report file -/

end Linter

end DatasetLint
