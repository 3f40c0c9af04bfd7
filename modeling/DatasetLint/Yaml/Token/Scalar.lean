import DatasetLint.Yaml.Token

/-!
# Scalars

The text of plain, quoted and block scalars. Line ends inside a flow scalar fold: one alone reads
as a space, and of several the first is dropped. Every function takes the characters that follow
and returns the text read with the characters left over, or `none` where the scalar is ill-formed.
-/

namespace DatasetLint.Yaml.Token

open Chars

/-- The blanks and line ends between two parts of a flow scalar. -/
inductive Gap where
  /-- Blanks on one line. -/
  | blanks (cs : List Char)
  /-- A line end, blanks dropped, and the line ends of the empty lines after it. -/
  | lines (first : Char) (more : List Char)
  /-- An escaped line end and the line ends of the empty lines after it. -/
  | escaped (more : List Char)
deriving DecidableEq, Repr

namespace Gap

def none : Gap := .blanks []

/-- What the gap reads as. -/
def text : Gap → List Char
  | blanks cs => cs
  | lines first more =>
    if first = '\n' then (if more.isEmpty then [' '] else more) else first :: more
  | escaped more => more

/-- Whether a line has ended in the gap. -/
def hasBreak : Gap → Bool
  | blanks _ => false
  | _ => true

/-- The gap with another space or tab. -/
def addBlank (c : Char) : Gap → Gap
  | blanks cs => blanks (cs ++ [c])
  | g => g

/-- The gap with another line end. -/
def addBreak (c : Char) : Gap → Gap
  | blanks _ => lines c []
  | lines first more => lines first (more ++ [c])
  | escaped more => escaped (more ++ [c])

end Gap

/-! ## Plain scalars -/

/-- The characters that structure a flow collection. -/
def isFlowIndicator (c : Char) : Bool :=
  c == ',' || c == '[' || c == ']' || c == '{' || c == '}'

/-- A plain scalar read up to some place. -/
structure Plain where
  text : List Char
  /-- The position behind its last character. -/
  stop : Mark
  rest : Chars
  /-- Whether a line has ended since. -/
  atNewLine : Bool

/-- Where the plain scalar is read: inside a flow collection or not, and from which column on a
continuation line belongs to it. -/
structure PlainContext where
  inFlow : Bool
  indent : Nat
  stop : Mark

/-- Whether a plain scalar ends before the nonblank character at the head of `s`. -/
def PlainContext.ends (x : PlainContext) (afterGap : Bool) (c : Char) (m : Mark) (r : Chars) : Bool :=
  (afterGap && (c == '#' || (!x.inFlow && m.column < x.indent))) ||
    (m.column == 0 && atDocumentMarker ((c, m) :: r)) ||
    (c == ':' && atBlank r) || (x.inFlow && isFlowIndicator c)

/-- The rest of a plain scalar after some of it and a gap. -/
def plainRest (x : PlainContext) (last : Mark) (afterGap : Bool) (gap : Gap) : Chars → Option Plain
  | [] => some ⟨[], last, [], gap.hasBreak⟩
  | (c, m) :: r =>
    if isGap c then
      if c == '\t' && gap.hasBreak && m.column < x.indent then none
      else plainRest x last true (gap.addBlank c) r
    else if isBreak c then plainRest x last true (gap.addBreak c) r
    else if x.inFlow && c == ':' && startsWith (fun d => isFlowIndicator d || d == '?') r then none
    else if x.ends afterGap c m r then some ⟨[], last, (c, m) :: r, gap.hasBreak⟩
    else
      (plainRest x (here x.stop r) false .none r).map fun p => { p with text := gap.text ++ c :: p.text }

/-! ## Quoted scalars -/

/-- The characters that a backslash and one character stand for. -/
def escapedChar? : Char → Option Char
  | '0' => some '\x00'
  | 'a' => some '\x07'
  | 'b' => some '\x08'
  | 't' => some '\t'
  | '\t' => some '\t'
  | 'n' => some '\n'
  | 'v' => some '\x0b'
  | 'f' => some '\x0c'
  | 'r' => some '\r'
  | 'e' => some '\x1b'
  | ' ' => some ' '
  | '"' => some '"'
  | '/' => some '/'
  | '\\' => some '\\'
  | 'N' => some '\u0085'
  | '_' => some '\u00a0'
  | 'L' => some '\u2028'
  | 'P' => some '\u2029'
  | _ => none

/-- How many hexadecimal digits follow a backslash and this character. -/
def escapeWidth? : Char → Option Nat
  | 'x' => some 2
  | 'u' => some 4
  | 'U' => some 8
  | _ => none

/-- The value of a hexadecimal digit. -/
def hexValue? (c : Char) : Option Nat :=
  if '0' ≤ c ∧ c ≤ '9' then some (c.toNat - '0'.toNat)
  else if 'a' ≤ c ∧ c ≤ 'f' then some (c.toNat - 'a'.toNat + 10)
  else if 'A' ≤ c ∧ c ≤ 'F' then some (c.toNat - 'A'.toNat + 10)
  else none

/-- What a quoted scalar expects next: text, or digits of an escape. -/
inductive QuoteState where
  | text (gap : Gap)
  | escape (gap : List Char)
  | digits (gap : List Char) (left value : Nat)

/-- The character of a code point that is one. -/
def charOf? (n : Nat) : Option Char := if n.isValidChar then some (Char.ofNat n) else none

/-- The rest of a double-quoted scalar, from behind its opening quote or from later on. -/
def doubleQuoted : QuoteState → Chars → Option (List Char × Chars)
  | _, [] => none
  | .text gap, (c, m) :: r =>
    if m.column == 0 && atDocumentMarker ((c, m) :: r) then none
    else if c == '"' then some (gap.text, r)
    else if isGap c then doubleQuoted (.text (gap.addBlank c)) r
    else if isBreak c then doubleQuoted (.text (gap.addBreak c)) r
    else if c == '\\' then doubleQuoted (.escape gap.text) r
    else (doubleQuoted (.text .none) r).map fun (t, s) => (gap.text ++ c :: t, s)
  | .escape gap, (c, _) :: r =>
    if isBreak c then (doubleQuoted (.text (.escaped [])) r).map fun (t, s) => (gap ++ t, s)
    else
      match escapedChar? c, escapeWidth? c with
      | some d, _ => (doubleQuoted (.text .none) r).map fun (t, s) => (gap ++ d :: t, s)
      | none, some n => doubleQuoted (.digits gap n 0) r
      | none, none => none
  | .digits gap left value, (c, _) :: r =>
    match hexValue? c with
    | none => none
    | some d =>
      let v := 16 * value + d
      if 1 < left then doubleQuoted (.digits gap (left - 1) v) r
      else
        match charOf? v with
        | none => none
        | some e => (doubleQuoted (.text .none) r).map fun (t, s) => (gap ++ e :: t, s)

/-- The rest of a single-quoted scalar; `quote` tells that the last character was a quote. -/
def singleQuoted (quote : Bool) (gap : Gap) : Chars → Option (List Char × Chars)
  | [] => if quote then some (gap.text, []) else none
  | (c, m) :: r =>
    if quote then
      if c == '\'' then (singleQuoted false .none r).map fun (t, s) => (gap.text ++ '\'' :: t, s)
      else some (gap.text, (c, m) :: r)
    else if m.column == 0 && atDocumentMarker ((c, m) :: r) then none
    else if c == '\'' then singleQuoted true gap r
    else if isGap c then singleQuoted false (gap.addBlank c) r
    else if isBreak c then singleQuoted false (gap.addBreak c) r
    else (singleQuoted false .none r).map fun (t, s) => (gap.text ++ c :: t, s)

/-! ## Block scalars -/

/-- What happens to the line ends behind the last line of a block scalar. -/
inductive Chomping where
  | strip
  | clip
  | keep
deriving DecidableEq, Repr

/-- The header of a block scalar: chomping and an explicit indentation. -/
structure BlockHeader where
  chomping : Chomping
  indent : Option Nat
deriving DecidableEq, Repr

/-- The chomping indicator at the head, if there is one. -/
private def chompingAt? : Chars → Option (Chomping × Chars)
  | ('+', _) :: r => some (.keep, r)
  | ('-', _) :: r => some (.strip, r)
  | _ => none

/-- The indentation indicator at the head, if there is one; zero is none. -/
private def indentAt? : Chars → Option (Option Nat × Chars)
  | (c, m) :: r =>
    if c.isDigit then (if c = '0' then none else some (some (c.toNat - '0'.toNat), r))
    else some (none, (c, m) :: r)
  | [] => some (none, [])

/-- Blanks and a comment up to the line end, which belongs to them. -/
def lineRest (s : Chars) : Option Chars :=
  let s := skip isGap s
  let s := if startsWith (· == '#') s then skip (fun c => !isBreak c) s else s
  match s with
  | [] => some []
  | (c, _) :: r => if isBreak c then some r else none

/-- The header behind `|` or `>`, its two indicators in either order. -/
def blockHeader (s : Chars) : Option (BlockHeader × Chars) :=
  match chompingAt? s with
  | some (ch, r) => (indentAt? r).map fun (i, r) => (⟨ch, i⟩, r)
  | none =>
    match indentAt? s with
    | none => none
    | some (some i, r) =>
      match chompingAt? r with
      | some (ch, r) => some (⟨ch, some i⟩, r)
      | none => some (⟨.clip, some i⟩, r)
    | some (none, r) => some (⟨.clip, none⟩, r)

/-- The widest indentation of the blank lines at the head and of the first line that has text. -/
def widestIndent (stop : Mark) : Chars → Nat
  | [] => stop.column
  | (c, m) :: r =>
    if c == ' ' then widestIndent stop r
    else if isBreak c then max m.column (widestIndent stop r)
    else m.column

/-- A block scalar as it is read: inside a line that started with a blank or not, or between
lines. Between lines stand the end of the last line, if it had one, and those of blank lines. -/
inductive BlockState where
  | line (startsBlank : Bool)
  | between (startsBlank : Bool) (lead : Option Char) (trail : List Char)

/-- What two lines of a block scalar are joined by. -/
def blockJoin (literal startsBlank nextBlank : Bool) (lead : Option Char) (trail : List Char) : List Char :=
  if !literal && lead == some '\n' && !startsBlank && !nextBlank then
    (if trail.isEmpty then [' '] else trail)
  else lead.toList ++ trail

/-- What stays of the line ends behind the last line. -/
def Chomping.tail (lead : Option Char) (trail : List Char) : Chomping → List Char
  | .strip => []
  | .clip => lead.toList
  | .keep => lead.toList ++ trail

/-- The lines of a block scalar whose text starts at column `indent`. While the indentation was
still being found (`finding`) a tab in it is refused in any column. -/
def blockLines (literal : Bool) (ch : Chomping) (indent : Nat) (finding : Bool) :
    BlockState → Chars → Option (List Char × Chars)
  | .line _, [] => some ([], [])
  | .between _ lead trail, [] => some (ch.tail lead trail, [])
  | .line b, (c, _) :: r =>
    if isBreak c then blockLines literal ch indent false (.between b (some c) []) r
    else (blockLines literal ch indent false (.line b) r).map fun (t, s) => (c :: t, s)
  | .between b lead trail, (c, m) :: r =>
    if c == ' ' && m.column < indent then blockLines literal ch indent finding (.between b lead trail) r
    else if c == '\t' && (finding || m.column < indent) then none
    else if isBreak c then blockLines literal ch indent finding (.between b lead (trail ++ [c])) r
    else if m.column == indent then
      (blockLines literal ch indent false (.line (isGap c)) r).map fun (t, s) =>
        (blockJoin literal b (isGap c) lead trail ++ c :: t, s)
    else some (ch.tail lead trail, (c, m) :: r)

/-- A block scalar from behind its indicator. `parent` is the column of the enclosing block. -/
def blockScalar (literal : Bool) (parent : Option Nat) (stop : Mark) (s : Chars) :
    Option (List Char × Chars) :=
  match blockHeader s with
  | none => none
  | some (h, r) =>
    match lineRest r with
    | none => none
    | some r =>
      match h.indent with
      | some i => blockLines literal h.chomping (parent.getD 0 + i) false (.between false none []) r
      | none =>
        let least := match parent with
          | some p => p + 1
          | none => 1
        blockLines literal h.chomping (max (widestIndent stop r) least) true (.between false none []) r

end DatasetLint.Yaml.Token
