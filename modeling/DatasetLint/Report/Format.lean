import DatasetLint.Report.Document
import DatasetLint.Report.Human
import DatasetLint.Report.Structured

/-!
# Formats of the report

The report for people, as JSON or as YAML, and the words that choose between them.
-/

namespace DatasetLint.Report

inductive Format where
  | human
  | json
  | yaml
deriving DecidableEq, Repr, Inhabited

namespace Format

/-- The format that a word names; the case of its letters does not count. The fault tells what is
unknown. -/
def read (s : String) : Except String Format :=
  let w := String.ofList (s.toList.map Text.lowerAscii)
  if w = "human" ∨ w = "text" then .ok human
  else if w = "json" then .ok json
  else if w = "yaml" ∨ w = "yml" then .ok yaml
  else .error ("unknown output format '" ++ w ++ "'")

/-- The report in a format; only the one for people has colors. -/
def render (color : Bool) : Format → ProblemTable → String
  | human => Human.render color
  | json => Structured.render
  | yaml => Document.render

end Format

end DatasetLint.Report
