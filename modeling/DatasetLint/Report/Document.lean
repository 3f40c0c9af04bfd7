import DatasetLint.Files.System
import DatasetLint.ProblemTable
import DatasetLint.Yaml.Reader
import DatasetLint.Yaml.Writer

/-!
# The report as YAML

The problems of each resource under its name. The report can be read back, and a run leaves it in the
output directory.
-/

namespace DatasetLint.Report.Document

open Yaml

def problem (p : Problem) : Value :=
  .mapping [
    (.scalar (.string "level"), .scalar (.string p.severity.label)),
    (.scalar (.string "message"), .scalar (.string p.message))]

def report (s : ProblemTable) : Value :=
  .mapping (s.buckets.map fun b => (.scalar (.string b.1), .sequence (b.2.map problem)))

def render (s : ProblemTable) : String := (report s).render

/-! ## Reading -/

def severityReader : Reader Severity :=
  .word [(Severity.warning.label, .warning), (Severity.error.label, .error)]

def problemReader : Reader Problem :=
  .record "Problem" false [
    .ofReader "level" true severityReader fun a p => { p with severity := a },
    .ofReader "message" true (.text "a string") fun a p => { p with message := a }] ⟨.warning, ""⟩

/-- The problems that a report lists. -/
def read (s : String) : Except Yaml.Error ProblemTable :=
  (readText (.map (.list problemReader)) s).map ProblemTable.ofList

/-! ## The file -/

def fileName : String := "rdflint-problems.yml"

/-- The report in the output directory, which is created if it is missing: the path of the report, or
why it could not be written, and the files then. -/
def write (s : ProblemTable) (directory : String) (files : Files.FileSystem) :
    Files.FileSystem × Except Files.FileFault String :=
  match files.createDirectories directory with
  | (files, some e) => (files, .error e)
  | (files, none) =>
    let path := Files.Path.join directory fileName
    match files.write path (render s).toUTF8 with
    | .error e => (files, .error e)
    | .ok files => (files, .ok path)

end DatasetLint.Report.Document
