import DatasetLint.Files.Path
import DatasetLint.Files.Uri
import DatasetLint.ProblemTable
import DatasetLint.Report.Json

/-!
# The report for editors

A notification of the Language Server Protocol for each resource, one a line. Problems have no position,
so that all of them are at the start of their documents.
-/

namespace DatasetLint.Report.Diagnostics

/-- The number of a severity in the protocol. -/
def severityCode : Severity → Nat
  | .error => 1
  | .warning => 2

def start : Json := .object [("line", .number 0), ("character", .number 0)]

def diagnostic (p : Problem) : Json :=
  .object [
    ("range", .object [("start", start), ("end", start)]),
    ("severity", .number (severityCode p.severity)),
    ("source", .text "rdflint"),
    ("message", .text p.message)]

/-- The URI of a resource under a root. -/
def uri (root resource : String) : String := Files.Uri.ofPath (Files.Path.join root resource)

def notification (root : String) (b : Bucket) : Json :=
  .object [
    ("jsonrpc", .text "2.0"),
    ("method", .text "textDocument/publishDiagnostics"),
    ("params", .object [("uri", .text (uri root b.1)), ("diagnostics", .array (b.2.map diagnostic))])]

def render (root : String) (s : ProblemTable) : String :=
  String.ofList (s.buckets.flatMap fun b => (notification root b).compact ++ ['\n'])

end DatasetLint.Report.Diagnostics
