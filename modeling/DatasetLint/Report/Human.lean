import DatasetLint.ProblemTable
import DatasetLint.Report.Style

/-!
# The report for people

A line for each problem, and one that counts them. Without problems there is nothing to report.
-/

namespace DatasetLint.Report.Human

/-- The styles of the two severities and of a resource. -/
structure Palette where
  error : Style
  warning : Style
  resource : Style

def Palette.ofColor (color : Bool) : Palette :=
  if color then ⟨.red, .orange, .dim⟩ else ⟨.plain, .plain, .plain⟩

def Palette.severity (p : Palette) : Severity → Style
  | .error => p.error
  | .warning => p.warning

/-- The line of a problem. -/
def line (p : Palette) (f : Finding) : String :=
  (p.severity f.problem.severity).apply f.problem.severity.word ++
    p.resource.apply ("[" ++ f.resource ++ "]") ++ ": " ++ f.problem.message ++ "\n"

/-- The line that counts the problems. -/
def summary (s : ProblemTable) : String :=
  "Found " ++ toString (s.count .error) ++ " error(s) and " ++ toString (s.count .warning) ++
    " warning(s) in " ++ toString s.resourceCount ++ " resource(s)\n"

def render (color : Bool) (s : ProblemTable) : String :=
  String.join (s.toList.map (line (.ofColor color))) ++
    if s.anyProblem then "\n" ++ summary s else ""

end DatasetLint.Report.Human
