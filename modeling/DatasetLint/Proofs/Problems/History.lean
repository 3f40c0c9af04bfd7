import DatasetLint.Proofs.Problems.Suppression
import DatasetLint.Proofs.Text.Order
import DatasetLint.Report.Diagnostics
import DatasetLint.Report.Format

/-!
# Histories of tables

What is done to a table is to record findings and to leave out known problems. A table that begins empty never
has a resource without problems, so that all ways of counting agree; and it is told by what happened to each
resource, however the resources came in turn.
-/

namespace DatasetLint

/-- What is done to a table of problems. -/
inductive Step where
  | record (f : Finding)
  | leaveOut (entries : List Suppression)

namespace Bucket

private theorem ne_nil_of_mem_modify {resource : String} {change : List Problem → List Problem}
    (hchange : ∀ ps, change ps ≠ []) {bs : List Bucket} (h : ∀ b ∈ bs, b.2 ≠ []) :
    ∀ b ∈ modify resource change bs, b.2 ≠ [] := by
  induction bs with
  | nil => simp [modify, hchange]
  | cons b bs ih =>
    obtain ⟨hb, hbs⟩ := List.forall_mem_cons.1 h
    simp only [modify]
    split
    · exact List.forall_mem_cons.2 ⟨hchange _, hbs⟩
    · split
      · exact List.forall_mem_cons.2 ⟨hchange _, h⟩
      · exact List.forall_mem_cons.2 ⟨hb, ih hbs⟩

end Bucket

namespace ProblemTable

/-! ## Tables without empty buckets -/

/-- Every resource of `s` has a problem. -/
def NoneEmpty (s : ProblemTable) : Prop := ∀ b ∈ s.buckets, b.2 ≠ []

theorem noneEmpty_empty : empty.NoneEmpty := List.forall_mem_nil _

private theorem NoneEmpty.push {s : ProblemTable} (h : s.NoneEmpty) (resource : String) (p : Problem) :
    (s.push resource p).NoneEmpty :=
  Bucket.ne_nil_of_mem_modify (fun _ => List.append_ne_nil_of_right_ne_nil _ (List.cons_ne_nil p [])) h

theorem noneEmpty_filter (keep : String → Problem → Bool) (s : ProblemTable) : (s.filter keep).NoneEmpty := by
  intro b hb
  obtain ⟨c, -, hkept⟩ := List.mem_filterMap.1 hb
  simp only [keepBucket] at hkept
  split at hkept
  · cases hkept
  · rename_i hne
    cases hkept
    exact fun hnil => hne (List.isEmpty_iff.2 hnil)

namespace NoneEmpty

variable {s t : ProblemTable} (hs : s.NoneEmpty)

include hs

theorem mem_resources_iff {r : String} : r ∈ s.resources ↔ s.get r ≠ [] := by
  constructor
  · intro hr
    obtain ⟨b, hb, rfl⟩ := mem_resources.1 hr
    rw [get_of_mem_buckets hb]
    exact hs b hb
  · intro hne
    obtain ⟨p, hp⟩ := List.exists_mem_of_ne_nil _ hne
    exact mem_resources_of_mem_get hp

/-- If `t` has no empty buckets, `s = t` is told by what `get` has of each resource. -/
theorem eq_iff (ht : t.NoneEmpty) : s = t ↔ ∀ r, s.get r = t.get r := by
  constructor
  · rintro rfl r
    rfl
  · intro hget
    refine ext_get (fun r => ?_) hget
    rw [hs.mem_resources_iff, ht.mem_resources_iff, hget]

theorem resourceCount_eq_length : s.resourceCount = s.buckets.length := by
  rw [resourceCount, List.countP_eq_length]
  intro b hb
  simpa using hs b hb

end NoneEmpty

/-! ## Counting -/

/-- How many problems `s` holds. -/
def size (s : ProblemTable) : Nat := (s.buckets.flatMap (·.2)).length

private theorem length_toList (s : ProblemTable) : s.toList.length = s.size := by
  rw [size, ← map_problem_toList, List.length_map]

private theorem count_error_add_count_warning (s : ProblemTable) : s.count .error + s.count .warning = s.size := by
  have hother : ∀ f : Finding, (f.problem.severity == .warning) = !(f.problem.severity == .error) := by
    intro f
    cases f.problem.severity <;> rfl
  rw [← length_toList, count, count, List.length_eq_countP_add_countP fun f => f.problem.severity == .error]
  simp only [hother, Bool.not_eq_true, Bool.decide_eq_false]

theorem anyProblem_iff_toList (s : ProblemTable) : s.anyProblem = true ↔ s.toList ≠ [] := by
  rw [toList, ne_eq, List.flatMap_eq_nil_iff, anyProblem, decide_eq_true_eq, resourceCount, List.countP_pos_iff]
  simp

theorem anyProblem_iff (s : ProblemTable) : s.anyProblem = true ↔ 0 < s.size := by
  rw [anyProblem_iff_toList, ← List.length_pos_iff, length_toList]

theorem anyError_iff (s : ProblemTable) : s.anyError = true ↔ 0 < s.count .error := by
  rw [anyError, count, List.countP_pos_iff, List.any_eq_true]

end ProblemTable

/-! ## Steps -/

/-- What a step makes of the problems `ps` of one `resource`. -/
def Step.on (resource : String) (ps : List Problem) : Step → List Problem
  | record f => if f.resource = resource then ps ++ [f.problem] else ps
  | leaveOut es => ps.filter fun p => !decide (Suppression.Known es resource p.message)

/-- What `steps` leave of the problems that they record about `resource`. -/
def Step.history (resource : String) (steps : List Step) : List Problem := steps.foldl (on resource) []

namespace ProblemTable

def step (s : ProblemTable) : Step → ProblemTable
  | .record f => s.push f.resource f.problem
  | .leaveOut es => Suppression.apply es s

/-- The table that `steps` make of `empty`. -/
def after (steps : List Step) : ProblemTable := steps.foldl step empty

private theorem NoneEmpty.step {s : ProblemTable} (h : s.NoneEmpty) (x : Step) : (s.step x).NoneEmpty := by
  cases x with
  | record f => exact h.push _ _
  | leaveOut es => exact noneEmpty_filter _ _

theorem noneEmpty_after (steps : List Step) : (after steps).NoneEmpty :=
  List.foldlRecOn steps step noneEmpty_empty fun _ h x _ => h.step x

/-- A step changes what `get` has of `r` by what it is `on` `r`. -/
theorem get_step (s : ProblemTable) (x : Step) (r : String) : (s.step x).get r = x.on r (s.get r) := by
  cases x with
  | record f =>
    rw [step, get_push, Step.on]
    split
    · rfl
    · rw [List.append_nil]
  | leaveOut es => exact Suppression.get_apply es s r

private theorem get_after (steps : List Step) (r : String) : (after steps).get r = Step.history r steps := by
  have hrun : ∀ s : ProblemTable, (steps.foldl step s).get r = steps.foldl (Step.on r) (s.get r) := by
    induction steps with
    | nil => exact fun _ => rfl
    | cons x steps ih =>
      intro s
      rw [List.foldl_cons, List.foldl_cons, ih, get_step]
  exact hrun empty

theorem after_eq_iff (steps steps' : List Step) :
    after steps = after steps' ↔ ∀ r, Step.history r steps = Step.history r steps' := by
  rw [(noneEmpty_after steps).eq_iff (noneEmpty_after steps')]
  simp only [get_after]

theorem NoneEmpty.record {s : ProblemTable} (h : s.NoneEmpty) (fs : List Finding) : (s.record fs).NoneEmpty := by
  induction fs generalizing s with
  | nil => exact h
  | cons f fs ih => exact ih (h.push f.resource f.problem)

/-- What was recorded in `s` is told by `Finding.about` for each resource. -/
theorem NoneEmpty.record_eq_iff {s : ProblemTable} (h : s.NoneEmpty) (fs gs : List Finding) :
    s.record fs = s.record gs ↔ ∀ r, Finding.about r fs = Finding.about r gs := by
  rw [(h.record fs).eq_iff (h.record gs)]
  simp only [get_record, List.append_cancel_left_eq]

/-- The `resources` of `s` come in the order of their octets. -/
theorem pairwise_octets (s : ProblemTable) :
    s.resources.Pairwise fun q r => List.Lex (· < ·) (Text.Utf8.octets q) (Text.Utf8.octets r) :=
  s.increasing_resources.imp Text.Utf8.lex_octets

/-- Every bucket of the table `after` some `steps` has a problem, and its `resources` increase by their octets. So
`resourceCount` counts the buckets, `count .error` and `count .warning` make up the `size`, and `anyProblem` and
`anyError` hold exactly if there is one to be counted. The tables `after` `steps` and `steps'` are the same exactly
if `Step.history` is so for each resource `r`; and findings `fs` and `gs` with the same order about each resource
make the same table, and so the same reports. -/
theorem after_told_by_histories (steps : List Step) :
    (∀ b ∈ (after steps).buckets, b.2 ≠ []) ∧
    ((after steps).resources.Pairwise fun q r =>
      List.Lex (· < ·) (Text.Utf8.octets q) (Text.Utf8.octets r)) ∧
    (after steps).resourceCount = (after steps).buckets.length ∧
    (after steps).count .error + (after steps).count .warning = (after steps).size ∧
    ((after steps).anyProblem = true ↔ 0 < (after steps).size) ∧
    ((after steps).anyError = true ↔ 0 < (after steps).count .error) ∧
    (∀ steps', after steps = after steps' ↔ ∀ r, Step.history r steps = Step.history r steps') ∧
    ∀ fs gs : List Finding, (∀ r, Finding.about r fs = Finding.about r gs) →
      (after steps).record fs = (after steps).record gs ∧
      (∀ (color : Bool) (format : Report.Format),
        format.render color ((after steps).record fs) = format.render color ((after steps).record gs)) ∧
      ∀ root, Report.Diagnostics.render root ((after steps).record fs) =
        Report.Diagnostics.render root ((after steps).record gs) := by
  have hnone := noneEmpty_after steps
  refine ⟨hnone, pairwise_octets _, hnone.resourceCount_eq_length, count_error_add_count_warning _,
    anyProblem_iff _, anyError_iff _, after_eq_iff steps, fun fs gs hsame => ?_⟩
  have hrecord : (after steps).record fs = (after steps).record gs := (hnone.record_eq_iff fs gs).2 hsame
  exact ⟨hrecord, fun color format => by rw [hrecord], fun root => by rw [hrecord]⟩

/-- Two findings about one resource and one about another, in two turns, behind steps that leave nothing of what
they record. -/
theorem after_told_by_histories_turns :
    let steps := [.record ⟨"ä.ttl", .error, "broken"⟩, .leaveOut [⟨"ä.ttl", .contains "broke"⟩]]
    let first : Finding := ⟨"ä.ttl", .error, "broken"⟩
    let second : Finding := ⟨"ä.ttl", .warning, "odd"⟩
    let other : Finding := ⟨"z.ttl", .warning, "odd"⟩
    (∀ r, Finding.about r [first, other, second] = Finding.about r [other, first, second]) ∧
      (after steps).buckets = [] ∧
      (after steps).record [first, other, second] = (after steps).record [other, first, second] := by
  intro steps first second other
  have hsame : ∀ r, Finding.about r [first, other, second] = Finding.about r [other, first, second] := by
    intro r
    rw [Finding.about_cons, Finding.about_cons, Finding.about_cons r other, Finding.about_cons r first]
    by_cases hr : other.resource = r
    · subst hr
      rfl
    · rw [if_neg hr, List.nil_append, List.nil_append]
  obtain ⟨-, -, -, -, -, -, -, hturns⟩ := after_told_by_histories steps
  exact ⟨hsame, by decide +kernel, (hturns _ _ hsame).1⟩

end ProblemTable

end DatasetLint
