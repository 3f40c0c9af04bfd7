import DatasetLint.Pattern.Property
import DatasetLint.Text.Blank

/-!
# Flags

What letters behind `(?` switch on, or off behind a minus sign.
-/

namespace DatasetLint.Pattern

structure Flags where
  ignoreCase : Bool
  /-- Line ends end what `^` and `$` look at. -/
  multiLine : Bool
  /-- A point matches line ends too. -/
  dotAll : Bool
  /-- A carriage return ends a line. -/
  crlf : Bool
  unicode : Bool
  /-- Blanks and comments in the pattern do not count. -/
  spaced : Bool
deriving DecidableEq, Repr

namespace Flags

def default : Flags := ⟨false, false, false, false, true, false⟩

/-- The flags with one of them on or off; greed makes no difference to whether a pattern matches. -/
def set (f : Flags) (letter : Char) (on : Bool) : Option Flags :=
  match letter with
  | 'i' => some { f with ignoreCase := on }
  | 'm' => some { f with multiLine := on }
  | 's' => some { f with dotAll := on }
  | 'R' => some { f with crlf := on }
  | 'u' => some { f with unicode := on }
  | 'x' => some { f with spaced := on }
  | 'U' => some f
  | _ => none

/-- Flags up to a colon or a closing parenthesis, which comes with the rest. No letter and no minus sign
may appear twice, and a letter must follow the sign. -/
def read (f : Flags) (on : Bool) (seen : List Char) : List Char → Option (Flags × List Char × List Char)
  | [] => none
  | c :: cs =>
    if c == ':' || c == ')' then
      if seen.head? == some '-' then none else some (f, seen, c :: cs)
    else if seen.contains c then none
    else if c == '-' then read f false (c :: seen) cs
    else
      match f.set c on with
      | none => none
      | some f => read f on (c :: seen) cs

/-- The rest of a comment, behind its line end. -/
def skipComment : List Char → List Char
  | [] => []
  | c :: cs => if c == '\n' then cs else skipComment cs

theorem length_skipComment_le (cs : List Char) : (skipComment cs).length ≤ cs.length := by
  induction cs with
  | nil => simp [skipComment]
  | cons c cs ih =>
    simp only [skipComment]
    split
    · simp
    · simp; omega

/-- Blanks and comments are passed over where they do not count. -/
def skipSpace (f : Flags) (cs : List Char) : List Char :=
  match cs with
  | [] => []
  | c :: r =>
    if !f.spaced then c :: r
    else if Text.isBlank c then skipSpace f r
    else if c == '#' then skipSpace f (skipComment r)
    else c :: r
termination_by cs.length
decreasing_by
  · simp
  · have := length_skipComment_le r
    simp
    omega

/-- The next character that counts behind the first one, for deciding what a minus sign in brackets
means. A comment there is looked into. -/
def peekSpace (f : Flags) (inComment : Bool) : List Char → Option Char
  | [] => none
  | c :: r =>
    if !f.spaced then some c
    else if Text.isBlank c then peekSpace f inComment r
    else if c == '#' && !inComment then peekSpace f true r
    else some c

end Flags

end DatasetLint.Pattern
