import DatasetLint.Proofs.Problems.Table
import DatasetLint.Run

/-!
# Shares of a run

Each stage and each check adds its share of problems behind what is there, whatever came before it. So a run
only appends, nothing gets lost, and how one check ends does not matter to the shares of the others.
-/

namespace DatasetLint

universe u

variable {α : Type u}

/-- To `record` one share after the other is to record all of them. -/
theorem ProblemTable.foldl_record (share : α → List Finding) (as : List α) (s : ProblemTable) :
    as.foldl (fun s a => s.record (share a)) s = s.record (as.flatMap share) := by
  induction as generalizing s with
  | nil => rfl
  | cons a as ih =>
    rw [List.foldl_cons, ih, List.flatMap_cons, record_append]

namespace Check

variable (x : Context) (s : ProblemTable)

theorem runAll_eq_record (cs : List Check) : runAll cs x s = s.record (cs.flatMap (·.share x)) :=
  ProblemTable.foldl_record (fun c => share c x) cs s

private theorem runAll_append (cs ds : List Check) : runAll (cs ++ ds) x s = runAll ds x (runAll cs x s) := by
  simp only [runAll_eq_record, List.flatMap_append, ProblemTable.record_append]

/-- `runAll` puts the shares of `cs` behind what `s` has about `r`. -/
theorem get_runAll (cs : List Check) (r : String) :
    (runAll cs x s).get r = s.get r ++ Finding.about r (cs.flatMap (·.share x)) := by
  rw [runAll_eq_record, ProblemTable.get_record]

/-- What `before` and `after` say about `r` stands around the share of `c`, whatever that is. -/
theorem get_runAll_between (before after : List Check) (c : Check) (r : String) :
    (runAll (before ++ c :: after) x s).get r =
      s.get r ++ Finding.about r (before.flatMap (·.share x)) ++ Finding.about r (c.share x) ++
        Finding.about r (after.flatMap (·.share x)) := by
  rw [get_runAll, List.flatMap_append, List.flatMap_cons, Finding.about_append, Finding.about_append]
  simp only [List.append_assoc]

variable {x}

/-- A check that finishes shares its findings under its `name`. -/
theorem share_of_run_eq_ok {c : Check} {fs : List Finding} (h : c.run x = .ok fs) :
    c.share x = fs.map fun f => ⟨f.resource, f.problem.severity, c.name ++ ": " ++ f.problem.message⟩ := by
  rw [share, h]

/-- A check that fails shares one error, about `runnerResource`. -/
theorem share_of_run_eq_error {c : Check} {e : RunError} (h : c.run x = .error e) :
    c.share x = [⟨runnerResource, .error, complaint c.name e⟩] := by
  rw [share, h]

end Check

namespace Stage

variable (x : Context) (s : ProblemTable)

private theorem runAll_eq_record (gs : List Stage) : runAll gs x s = s.record (gs.flatMap (·.share x)) :=
  ProblemTable.foldl_record (fun g => share g x) gs s

/-- `runAll` puts the shares of `gs` behind what `s` has about `r`. -/
theorem get_runAll (gs : List Stage) (r : String) :
    (runAll gs x s).get r = s.get r ++ Finding.about r (gs.flatMap (·.share x)) := by
  rw [runAll_eq_record, ProblemTable.get_record]

variable {x}

private theorem share_of_run_finished {g : Stage} {fs : List Finding} (h : g.run x = (fs, none)) : g.share x = fs := by
  simp [share, h]

/-- A stage that fails keeps what it has found, `fs`, and one error is added. -/
theorem share_of_run_failed {g : Stage} {fs : List Finding} {e : RunError} (h : g.run x = (fs, some e)) :
    g.share x = fs ++ [⟨runnerResource, .error, g.name ++ ": " ++ e.message⟩] := by
  simp [share, h]

end Stage

namespace Linter

variable (l : Linter) (x : Context)

/-- The `problems` of a run are the shares of its stages and then of its checks. -/
theorem problems_eq_record :
    l.problems x = ProblemTable.empty.record (l.stages.flatMap (·.share x) ++ l.checks.flatMap (·.share x)) := by
  rw [problems, Check.runAll_eq_record, Stage.runAll_eq_record, ProblemTable.record_append]

private theorem get_problems (r : String) : (l.problems x).get r =
    Finding.about r (l.stages.flatMap (·.share x) ++ l.checks.flatMap (·.share x)) := by
  rw [problems_eq_record, ProblemTable.get_record, ProblemTable.get_empty, List.nil_append]

/-- The `problems` of a run are those in the shares: none is lost and none made up. -/
theorem toList_problems_perm :
    (l.problems x).toList.Perm (l.stages.flatMap (·.share x) ++ l.checks.flatMap (·.share x)) := by
  rw [problems_eq_record]
  exact ProblemTable.toList_record_perm _ _

end Linter

/-- `Check.runAll` puts the shares of `cs` behind what `s` has about `r`, in the order of `cs`: the findings under
the `name` of the check if it finishes, else one error about `runnerResource`. `Stage.runAll` does the same with
what stages find, and one that fails adds one error behind it. So the `problems` of a run are those of all shares,
each once and those about `r` in order; `cs` and `ds` may be run one list after the other; and however `c` ends,
what `before` and `after` share stands around it unchanged. -/
theorem run_appends_shares (x : Context) (s : ProblemTable) :
    (∀ (cs : List Check) r, (Check.runAll cs x s).get r = s.get r ++ Finding.about r (cs.flatMap (·.share x))) ∧
    (∀ (c : Check) fs, c.run x = .ok fs → c.share x =
      fs.map fun f => ⟨f.resource, f.problem.severity, c.name ++ ": " ++ f.problem.message⟩) ∧
    (∀ (c : Check) e, c.run x = .error e →
      c.share x = [⟨runnerResource, .error, Check.complaint c.name e⟩]) ∧
    (∀ (gs : List Stage) r, (Stage.runAll gs x s).get r = s.get r ++ Finding.about r (gs.flatMap (·.share x))) ∧
    (∀ (g : Stage) fs, g.run x = (fs, none) → g.share x = fs) ∧
    (∀ (g : Stage) fs e, g.run x = (fs, some e) →
      g.share x = fs ++ [⟨runnerResource, .error, g.name ++ ": " ++ e.message⟩]) ∧
    (∀ (l : Linter) r, (l.problems x).get r =
      Finding.about r (l.stages.flatMap (·.share x) ++ l.checks.flatMap (·.share x))) ∧
    (∀ l : Linter, (l.problems x).toList.Perm
      (l.stages.flatMap (·.share x) ++ l.checks.flatMap (·.share x))) ∧
    (∀ cs ds : List Check, Check.runAll (cs ++ ds) x s = Check.runAll ds x (Check.runAll cs x s)) ∧
    (∀ (before after : List Check) (c : Check) r, (Check.runAll (before ++ c :: after) x s).get r =
      s.get r ++ Finding.about r (before.flatMap (·.share x)) ++ Finding.about r (c.share x) ++
        Finding.about r (after.flatMap (·.share x))) :=
  ⟨Check.get_runAll x s, fun _ _ => Check.share_of_run_eq_ok, fun _ _ => Check.share_of_run_eq_error,
    Stage.get_runAll x s, fun _ _ => Stage.share_of_run_finished, fun _ _ _ => Stage.share_of_run_failed,
    fun l => l.get_problems x, fun l => l.toList_problems_perm x, Check.runAll_append x s,
    Check.get_runAll_between x s⟩

end DatasetLint
