import DatasetLint.Proofs.Problems.History
import DatasetLint.Proofs.Report.Json
import DatasetLint.Proofs.Text.Pieces
import DatasetLint.Report.Diagnostics

/-!
# Notifications line by line

The report for editors has a line for each resource, and each line is one notification, whatever its messages
are: it is read as the publication of the problems of this resource.
-/

namespace DatasetLint.Report.Diagnostics

/-- A place in a document. -/
structure Place where
  line : Nat
  character : Nat
deriving DecidableEq, Repr

/-- What an editor is told about a problem. -/
structure Diagnostic where
  start : Place
  stop : Place
  severity : Nat
  source : String
  message : String
deriving DecidableEq, Repr

/-- What an editor is told about a document. -/
structure Publication where
  uri : String
  diagnostics : List Diagnostic
deriving DecidableEq, Repr

/-! ## Reading -/

def Place.ofJson? (x : Json) : Option Place := do
  let line ← (x.entry? "line").bind Json.number?
  let character ← (x.entry? "character").bind Json.number?
  some ⟨line, character⟩

def Diagnostic.ofJson? (x : Json) : Option Diagnostic := do
  let range ← x.entry? "range"
  let start ← (range.entry? "start").bind Place.ofJson?
  let stop ← (range.entry? "end").bind Place.ofJson?
  let severity ← (x.entry? "severity").bind Json.number?
  let source ← (x.entry? "source").bind Json.text?
  let message ← (x.entry? "message").bind Json.text?
  some ⟨start, stop, severity, source, message⟩

/-- The publication of the notification `x`, which has to have the version of notifications and the method of
publications. -/
def Publication.ofJson? (x : Json) : Option Publication := do
  let version ← (x.entry? "jsonrpc").bind Json.text?
  let method ← (x.entry? "method").bind Json.text?
  guard (version = "2.0" ∧ method = "textDocument/publishDiagnostics")
  let params ← x.entry? "params"
  let uri ← (params.entry? "uri").bind Json.text?
  let diagnostics ← (params.entry? "diagnostics").bind Json.array?
  let diagnostics ← diagnostics.mapM Diagnostic.ofJson?
  some ⟨uri, diagnostics⟩

/-- The publication of the line `cs`, which has to be one notification and nothing else. -/
def Publication.ofLine? (cs : List Char) : Option Publication := (Json.read? cs).bind ofJson?

/-! ## Lines -/

/-- What the problem `p` is told as: at the start of the document, with 1 for an error and 2 for a warning. -/
def Diagnostic.ofProblem (p : Problem) : Diagnostic :=
  ⟨⟨0, 0⟩, ⟨0, 0⟩, if p.severity = .error then 1 else 2, "rdflint", p.message⟩

private theorem Diagnostic.ofJson?_diagnostic (p : Problem) : ofJson? (diagnostic p) = some (ofProblem p) := by
  obtain ⟨severity, message⟩ := p
  cases severity <;> rfl

private theorem Publication.ofJson?_notification (root : String) (b : Bucket) :
    ofJson? (notification root b) = some ⟨Diagnostics.uri root b.1, b.2.map Diagnostic.ofProblem⟩ := by
  have hdiagnostics := Json.mapM_map Diagnostic.ofJson?_diagnostic b.2
  show ((b.2.map diagnostic).mapM Diagnostic.ofJson?).bind _ = _
  rw [hdiagnostics]
  rfl

private theorem Publication.ofLine?_compact (root : String) (b : Bucket) :
    ofLine? (notification root b).compact = some ⟨Diagnostics.uri root b.1, b.2.map Diagnostic.ofProblem⟩ := by
  rw [ofLine?, Json.read?_compact, Option.bind_some, ofJson?_notification]

private theorem lineFeed_not_mem_compact (x : Json) : '\n' ∉ x.compact :=
  fun h => absurd (Json.noControl_compact x _ h) (by decide)

private theorem count_lineFeed {lines : List (List Char)} (h : ∀ line ∈ lines, '\n' ∉ line) :
    (lines.flatMap (· ++ ['\n'])).count '\n' = lines.length := by
  have hnone : '\n' ∉ lines.flatten := by
    intro hmem
    obtain ⟨line, hline, hfeed⟩ := List.mem_flatten.1 hmem
    exact h line hline hfeed
  rw [Text.count_ended, List.count_eq_zero.2 hnone, Nat.add_zero]

/-- The report for editors on `s` has one line feed for each bucket, at the end of its line. `ofLine?` reads the
`lines`, in the order of the `octets` of resources, as publications for the URIs of the resources under `root`, with
`Diagnostic.ofProblem` for each problem of the resource in turn. -/
theorem render_line_by_line (root : String) (s : ProblemTable) :
    (render root s).toList.count '\n' = s.buckets.length ∧
    (s.resources.Pairwise fun q r => List.Lex (· < ·) (Text.Utf8.octets q) (Text.Utf8.octets r)) ∧
    ∃ lines : List (List Char),
      (render root s).toList = lines.flatMap (· ++ ['\n']) ∧
      (∀ line ∈ lines, '\n' ∉ line) ∧
      lines.map Publication.ofLine? = s.resources.map fun r =>
        some ⟨Files.Uri.ofPath (Files.Path.join root r), (s.get r).map Diagnostic.ofProblem⟩ := by
  let lines := s.buckets.map fun b => (notification root b).compact
  have hrender : (render root s).toList = lines.flatMap (· ++ ['\n']) := by
    rw [render, String.toList_ofList, List.flatMap_map]
  have hlines : ∀ line ∈ lines, '\n' ∉ line := List.forall_mem_map.2 fun b _ => lineFeed_not_mem_compact _
  refine ⟨?_, s.pairwise_octets, lines, hrender, hlines, ?_⟩
  · rw [hrender, count_lineFeed hlines, List.length_map]
  · rw [ProblemTable.resources, List.map_map, List.map_map]
    refine List.map_congr_left fun b hb => ?_
    rw [Function.comp_apply, Function.comp_apply, Publication.ofLine?_compact, ProblemTable.get_of_mem_buckets hb]
    rfl

end DatasetLint.Report.Diagnostics
