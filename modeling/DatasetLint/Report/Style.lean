/-!
# Styled text

Texts between the escape sequences that switch a style of a terminal on and everything off.
-/

namespace DatasetLint.Report

/-- The parameters of the sequences that switch a style on, one after the other. -/
abbrev Style := List String

namespace Style

def plain : Style := []

def red : Style := ["31", "1"]

def orange : Style := ["38;5;208"]

def green : Style := ["32"]

def dim : Style := ["2"]

/-- The sequence with some parameters. -/
def sequence (parameters : String) : String := "\x1b[" ++ parameters ++ "m"

/-- A text in a style; the plain style adds nothing to it. -/
def apply (s : Style) (text : String) : String :=
  if s.isEmpty then text else String.join (s.map sequence) ++ text ++ sequence "0"

end Style

end DatasetLint.Report
