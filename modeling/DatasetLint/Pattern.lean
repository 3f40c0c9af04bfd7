import DatasetLint.Pattern.Grammar
import DatasetLint.Pattern.Size

/-!
# Patterns

A regular expression in the form in which a user writes it. A pattern is looked for anywhere in a text.
-/

namespace DatasetLint

/-- A pattern that can be looked for. -/
structure Pattern where
  source : String
  regex : Pattern.Regex

namespace Pattern

/-- Why a text is no pattern. -/
inductive Fault where
  | malformed
  | tooLarge
deriving DecidableEq, Repr

/-- What is said of a fault. For `malformed` this is the first line only: left out are the pattern with a caret at the
place of the mistake, and the reason, which would stand below it. -/
def Fault.message : Fault → String
  | malformed => "regex parse error"
  | tooLarge => "Compiled regex exceeds size limit of " ++ toString Size.limit ++ " bytes."

def ofText (s : String) : Except Fault Pattern :=
  match Grammar.read s with
  | none => .error .malformed
  | some r => if Size.limit < Size.ofRegex r then .error .tooLarge else .ok ⟨s, r⟩

/-- Whether the pattern matches some part of a text. -/
def isMatch (p : Pattern) (s : String) : Bool := p.regex.isMatch s

end Pattern

end DatasetLint
