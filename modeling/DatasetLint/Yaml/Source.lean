/-!
# A text with its positions

`Source.ofText` gives every character of a text its position and turns every way of ending a line
into one character, so that nothing after it counts lines or knows about carriage returns. The
line and paragraph separators of Unicode end a line too, but stay themselves.
-/

namespace DatasetLint.Yaml

/-- A position: how many characters precede it, and its line and column, all from zero. -/
structure Mark where
  index : Nat
  line : Nat
  column : Nat
deriving DecidableEq, Repr, Inhabited

namespace Mark

/-- The first position of a text. -/
def start : Mark := ⟨0, 0, 0⟩

/-- The position after a character that does not end the line. -/
def next (m : Mark) : Mark := ⟨m.index + 1, m.line, m.column + 1⟩

/-- The position after a line end of `n` characters. -/
def nextLine (m : Mark) (n : Nat) : Mark := ⟨m.index + n, m.line + 1, 0⟩

/-- The position of a line start at or after this one. -/
def toLineStart (m : Mark) : Mark := if m.column = 0 then m else ⟨m.index, m.line + 1, 0⟩

end Mark

/-- Characters with their positions. -/
abbrev Chars := List (Char × Mark)

/-- The line and paragraph separators. -/
def isSeparator (c : Char) : Bool := c == '\u2028' || c == '\u2029'

/-- The characters that end a line of a `Source`. -/
def isBreak (c : Char) : Bool := c == '\n' || isSeparator c

/-- Space and tab. -/
def isGap (c : Char) : Bool := c == ' ' || c == '\t'

/-- The characters that a YAML text may hold. -/
def isAllowed (c : Char) : Bool :=
  let n := c.toNat
  n == 0x09 || n == 0x0A || n == 0x0D || (0x20 ≤ n && n ≤ 0x7E) || n == 0x85 ||
    (0xA0 ≤ n && n ≤ 0xFFFD) || 0x10000 ≤ n

/-- A text whose characters know their positions, and the position behind the last. -/
structure Source where
  chars : Chars
  stop : Mark
deriving Repr

namespace Source

/-- Positions counted from `m`; `\r\n`, `\r`, `\n` and the next-line character become `\n`. -/
def annotate (m : Mark) : List Char → Chars × Mark
  | [] => ([], m)
  | '\r' :: '\n' :: cs => let r := annotate (m.nextLine 2) cs; (('\n', m) :: r.1, r.2)
  | c :: cs =>
    if c == '\r' || c == '\n' || c == '\u0085' then
      let r := annotate (m.nextLine 1) cs
      (('\n', m) :: r.1, r.2)
    else if isSeparator c then
      let r := annotate (m.nextLine 1) cs
      ((c, m) :: r.1, r.2)
    else
      let r := annotate m.next cs
      ((c, m) :: r.1, r.2)

/-- A text from its first character on. -/
def ofText (s : String) : Source :=
  let r := annotate .start s.toList
  ⟨r.1, r.2⟩

end Source

namespace Chars

/-- The position at the head of some characters of a text that stops at `stop`. -/
def here (stop : Mark) : Chars → Mark
  | [] => stop
  | (_, m) :: _ => m

/-- Whether the text continues with a gap or a line end, or not at all. -/
def atBlank : Chars → Bool
  | [] => true
  | (c, _) :: _ => isGap c || isBreak c

/-- Whether the first character satisfies `p`. -/
def startsWith (p : Char → Bool) : Chars → Bool
  | [] => false
  | (c, _) :: _ => p c

/-- Three dashes or three dots that stand alone: a document starts or ends there. -/
def atDocumentMarker : Chars → Bool
  | (a, _) :: (b, _) :: (c, _) :: r => a == b && b == c && (a == '-' || a == '.') && atBlank r
  | _ => false

/-- The characters before the first that fails `p`. -/
def word (p : Char → Bool) : Chars → List Char
  | [] => []
  | (c, _) :: r => if p c then c :: word p r else []

/-- The text from the first character on that fails `p`. -/
def skip (p : Char → Bool) : Chars → Chars
  | [] => []
  | s@((c, _) :: r) => if p c then skip p r else s

end Chars

end DatasetLint.Yaml
