import DatasetLint.Binding.Schema
import DatasetLint.Config.Parameters
import DatasetLint.Files.System
import DatasetLint.ProblemTable
import DatasetLint.RunError
import DatasetLint.Unicode.Case

/-!
# Checks

A check looks at the resources of a dataset and says what it finds. It has settings of its own, which
one section of the configuration fills. A check that cannot be set up or does not finish is itself
a problem of the run and does not keep the others from running.
-/

namespace DatasetLint

open Binding

/-- What a check is given besides its settings. -/
structure Context where
  parameters : Config.Parameters
  target : String
  files : Files.FileSystem

/-- Why a check did not finish. -/
inductive Failure where
  /-- The reasons that it gave, the last of them first. -/
  | failed (reasons : List String)
  /-- It broke down, perhaps with a text. -/
  | crashed (text : Option String)
deriving DecidableEq, Repr

def Failure.message : Failure → String
  | failed reasons => ": ".intercalate reasons
  | crashed t => "panicked: " ++ t.getD "unknown panic"

/-- A check: its name, its settings and what they are before a section fills them, and what it finds. -/
structure Check where
  name : String
  Settings : Type
  record : Record Settings
  start : Settings
  find : Context → Settings → Except Failure (List Finding)

/-- What problems of the run itself are about. -/
def runnerResource : String := "runner"

namespace Check

/-- The settings of a check; without a section they are what they were. -/
def settings (c : Check) (p : Config.Parameters) : Except BindFault c.Settings :=
  match p.section? c.name with
  | none | some .null => .ok c.start
  | some x => (c.record.bind c.start x).value

/-- What a check finds, or why it finds nothing. -/
def run (c : Check) (x : Context) : Except RunError (List Finding) :=
  match c.settings x.parameters with
  | .error e => .error (.binding c.name e)
  | .ok settings => (c.find x settings).mapError fun e => .execution c.name e.message

/-- The problem that a failed check is. -/
def complaint (name : String) : RunError → String
  | .binding _ e => name ++ ": invalid configuration: " ++ e.message
  | .execution _ m => name ++ ": execution failed: " ++ m
  | e => name ++ ": " ++ e.message

/-- What a check adds to the problems: its findings under its name, or that it failed. -/
def share (c : Check) (x : Context) : List Finding :=
  match c.run x with
  | .ok fs => fs.map fun f => { f with problem.message := c.name ++ ": " ++ f.problem.message }
  | .error e => [⟨runnerResource, .error, complaint c.name e⟩]

/-- The problems with those that some checks add, one check after the other. -/
def runAll (cs : List Check) (x : Context) (s : ProblemTable) : ProblemTable :=
  cs.foldl (fun s c => s.record (c.share x)) s

/-- The name of the section for a type of checks: what stands before its type arguments, without its
namespaces and without the word at its end that all checks have, and with a small first letter. -/
def sectionOf (typeName : String) : String :=
  let base := typeName.toList.takeWhile (· != '<')
  let short := lastName base
  let ending := "Validator".toList
  let stem := if ending.isSuffixOf short then short.take (short.length - ending.length) else []
  match if stem.isEmpty then short else stem with
  | [] => ""
  | c :: cs => String.ofList (Unicode.lower c ++ cs)
where
  /-- What stands behind the last two colons in a row. -/
  lastName : List Char → List Char
    | [] => []
    | c :: r =>
      if hasColons r then lastName r
      else if c == ':' && r.head? == some ':' then r.drop 1
      else c :: r
  hasColons : List Char → Bool
    | ':' :: ':' :: _ => true
    | _ :: r => hasColons r
    | [] => false

end Check

end DatasetLint
