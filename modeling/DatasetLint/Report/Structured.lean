import DatasetLint.ProblemTable
import DatasetLint.Report.Json

/-!
# The report as JSON

All problems by resource, and how many there are.
-/

namespace DatasetLint.Report.Structured

def problem (p : Problem) : Json := .object [("level", .text p.severity.label), ("message", .text p.message)]

def resource (b : Bucket) : Json :=
  .object [("resource", .text b.1), ("problems", .array (b.2.map problem))]

def report (s : ProblemTable) : Json :=
  .object [
    ("resources", .array (s.buckets.map resource)),
    ("summary", .object [
      ("resources", .number s.resourceCount),
      ("errors", .number (s.count .error)),
      ("warnings", .number (s.count .warning))])]

def render (s : ProblemTable) : String := String.ofList ((report s).pretty 0 ++ ['\n'])

end DatasetLint.Report.Structured
