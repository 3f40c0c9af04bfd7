import DatasetLint.Proofs.Problems.History
import DatasetLint.Proofs.Report.Json
import DatasetLint.Report.Human
import DatasetLint.Report.Structured

/-!
# The report as JSON reads back

The report as JSON is read as the problems that it was made of, whatever their texts are. What it counts is what
it lists, as long as no resource is without problems; and it is what the report for people counts.
-/

namespace DatasetLint.Report.Structured

/-- What a report counts. -/
structure Summary where
  resources : Nat
  errors : Nat
  warnings : Nat
deriving DecidableEq, Repr

/-! ## Reading -/

/-- The severity of the word `label` in data. -/
def severity? (label : String) : Option Severity :=
  if label = "ERROR" then some .error else if label = "WARNING" then some .warning else none

def problem? (x : Json) : Option Problem := do
  let severity ← ((x.entry? "level").bind Json.text?).bind severity?
  let message ← (x.entry? "message").bind Json.text?
  some ⟨severity, message⟩

def bucket? (x : Json) : Option Bucket := do
  let resource ← (x.entry? "resource").bind Json.text?
  let problems ← (x.entry? "problems").bind Json.array?
  let problems ← problems.mapM problem?
  some (resource, problems)

/-- The resources that the report `x` lists. -/
def listing? (x : Json) : Option (List Json) := (x.entry? "resources").bind Json.array?

def summary? (x : Json) : Option Summary := do
  let summary ← x.entry? "summary"
  let resources ← (summary.entry? "resources").bind Json.number?
  let errors ← (summary.entry? "errors").bind Json.number?
  let warnings ← (summary.entry? "warnings").bind Json.number?
  some ⟨resources, errors, warnings⟩

/-- The problems that the text `cs` of a report lists. -/
def table? (cs : List Char) : Option ProblemTable := do
  let x ← Json.read? cs
  let listing ← listing? x
  let buckets ← listing.mapM bucket?
  some (.ofList buckets)

/-! ## What is read -/

private theorem problem?_problem (p : Problem) : problem? (problem p) = some p := by
  obtain ⟨severity, message⟩ := p
  cases severity <;> rfl

private theorem bucket?_resource (b : Bucket) : bucket? (resource b) = some b := by
  have hproblems := Json.mapM_map problem?_problem b.2
  rw [List.map_id'] at hproblems
  show ((b.2.map problem).mapM problem?).bind _ = _
  rw [hproblems]
  rfl

private theorem mapM_bucket?_resource (bs : List Bucket) : (bs.map resource).mapM bucket? = some bs := by
  rw [Json.mapM_map bucket?_resource, List.map_id']

private theorem read?_render (s : ProblemTable) : Json.read? (render s).toList = some (report s) := by
  rw [render, String.toList_ofList, Json.read?_pretty]

/-- The report of any problems `s` is read as `s`. -/
theorem table?_render (s : ProblemTable) : table? (render s).toList = some s := by
  rw [table?, read?_render]
  show ((s.buckets.map resource).mapM bucket?).bind _ = _
  rw [mapM_bucket?_resource, Option.bind_some, ProblemTable.ofList_buckets]

private theorem summary?_report (s : ProblemTable) :
    summary? (report s) = some ⟨s.resourceCount, s.count .error, s.count .warning⟩ := rfl

/-- The report for people has the `summary` behind its lines, if there is anything to count. -/
theorem human_render_eq {s : ProblemTable} (h : s.NoneEmpty) (color : Bool) :
    Human.render color s = String.join (s.toList.map (Human.line (.ofColor color))) ++
      if s.buckets = [] then "" else "\n" ++ Human.summary s := by
  have hany : s.anyProblem = true ↔ s.buckets ≠ [] := by
    rw [ProblemTable.anyProblem, decide_eq_true_eq, h.resourceCount_eq_length, List.length_pos_iff]
  rw [Human.render]
  by_cases hnil : s.buckets = []
  · rw [if_pos hnil, if_neg fun hsome => hany.1 hsome hnil]
  · rw [if_neg hnil, if_pos (hany.2 hnil)]

/-- The report as JSON of a table that is made by `steps` is read as this table. Of what its `summary` counts,
resources are those of its `listing`, and errors and warnings are the problems of these severities there; and behind
its lines, the report for people counts the same, unless there is nothing to count. -/
theorem report_consistent (steps : List Step) :
    table? (render (.after steps)).toList = some (.after steps) ∧
    ∃ x listing summary bs, Json.read? (render (.after steps)).toList = some x ∧
      listing? x = some listing ∧ summary? x = some summary ∧
      listing.mapM bucket? = some bs ∧ bs = (ProblemTable.after steps).buckets ∧
      summary.resources = listing.length ∧
      summary.errors = (bs.flatMap (·.2)).countP (fun p => p.severity == .error) ∧
      summary.warnings = (bs.flatMap (·.2)).countP (fun p => p.severity == .warning) ∧
      ∀ color, Human.render color (.after steps) =
        String.join ((ProblemTable.after steps).toList.map (Human.line (.ofColor color))) ++
          if listing = [] then ""
          else "\n" ++ ("Found " ++ toString summary.errors ++ " error(s) and " ++ toString summary.warnings ++
            " warning(s) in " ++ toString summary.resources ++ " resource(s)\n") := by
  have hnone := ProblemTable.noneEmpty_after steps
  generalize ProblemTable.after steps = s at hnone ⊢
  refine ⟨table?_render s, report s, s.buckets.map resource, _, s.buckets, read?_render s, rfl, summary?_report s,
    mapM_bucket?_resource _, rfl, ?_, s.count_eq_countP .error, s.count_eq_countP .warning, fun color => ?_⟩
  · rw [List.length_map]
    exact hnone.resourceCount_eq_length
  · simp only [List.map_eq_nil_iff]
    exact human_render_eq hnone color

end DatasetLint.Report.Structured
