import DatasetLint.Text.Blank

/-!
# Problems

What a check has to say about a resource: a message and how serious it is.
-/

namespace DatasetLint

/-- How serious a problem is. An error that is left at the end fails the run. -/
inductive Severity where
  | warning
  | error
deriving DecidableEq, Repr, Inhabited

namespace Severity

/-- The word for a severity in reports for people. -/
def word : Severity → String
  | warning => "warning"
  | error => "error"

/-- The word for a severity in data. -/
def label : Severity → String
  | warning => "WARNING"
  | error => "ERROR"

/-- The severity that a word names; blanks around it and the case of its letters do not count. The
fault tells the word. -/
def read (s : String) : Except String Severity :=
  let w := Text.loose s
  if w = "error" then .ok error
  else if w = "warn" ∨ w = "warning" then .ok warning
  else .error ("unknown severity '" ++ w ++ "'")

theorem read_word (s : Severity) : read s.word = .ok s := by cases s <;> rfl

end Severity

/-- A message about some resource and how serious it is. -/
structure Problem where
  severity : Severity
  message : String
deriving DecidableEq, Repr

/-- A problem and the resource that it is about. -/
structure Finding where
  resource : String
  problem : Problem
deriving DecidableEq, Repr

end DatasetLint
