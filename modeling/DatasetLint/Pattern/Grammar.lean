import DatasetLint.Pattern.Bracket

/-!
# From a pattern to a regular expression

A pattern is read from the left. What is read since the last bar waits in a list, so that a count behind
it can still take its last part; what is outside of the open groups waits in a stack.
-/

namespace DatasetLint.Pattern.Grammar

/-- A part of an expression, and how deep groups, counts, lists and sets nest in it. -/
structure Item where
  regex : Regex
  depth : Nat
  /-- Whether it only sets flags, so that it cannot be repeated. -/
  isFlags : Bool
deriving DecidableEq, Repr

/-- The deepest nesting that a pattern may have. -/
def nestLimit : Nat := 250

/-- A group that is not closed yet: the parts since the last bar and the ways before it, the latest
first. -/
structure Group where
  captures : Bool
  items : List Item
  ways : List Item
  /-- The flags outside of the group. -/
  outside : Flags
deriving DecidableEq, Repr

structure State where
  rest : List Char
  flags : Flags
  group : Group
  /-- The groups outside of this one, the innermost first. -/
  outer : List Group
  /-- The names that groups have. -/
  names : List (List Char)
deriving DecidableEq, Repr

namespace Group

/-- The parts since the last bar as one. -/
def joined (g : Group) : Item :=
  match g.items with
  | [] => ⟨.empty, 0, false⟩
  | [i] => i
  | is => ⟨(is.reverse.map (·.regex)).foldl .seq .empty, 1 + (is.map (·.depth)).foldl max 0, false⟩

/-- All of the group as one. -/
def value (g : Group) : Item :=
  match g.ways with
  | [] => g.joined
  | ways =>
    let all := g.joined :: ways
    let regexes := all.reverse.map (·.regex)
    ⟨regexes.tail.foldl .alt (regexes.headD .empty), 1 + (all.map (·.depth)).foldl max 0, false⟩

end Group

namespace State

def push (s : State) (i : Item) (rest : List Char) : State :=
  { s with group := { s.group with items := i :: s.group.items }, rest := rest }

/-- A character where case counts or does not. -/
def literal (f : Flags) (c : Char) : Regex :=
  if !f.ignoreCase then .literal c
  else
    let s := Bracket.folded f (.single c)
    if s.runs.length == 1 && (f.unicode || c.toNat < 0x80) then .literal c else .set s

/-- What an escape stands for on its own. -/
def primitive (f : Flags) : Primitive → Option Regex
  | .char c octet => if octet && !f.unicode && 0x80 ≤ c.toNat then none else some (literal f c)
  | .set s => some (.set s)
  | .look l => some (.look l)

/-- Any character, or any but a line end. -/
def point (f : Flags) : Option Regex :=
  if !f.unicode then none
  else if f.dotAll then some (.set anyChar)
  else
    let ends := if f.crlf then "\n\r" else "\n"
    some (.set (Unicode.CharSet.ofList ends.toList).compl)

/-! ## Groups -/

/-- The characters of names; a name begins with a letter or an underscore. -/
def isNameChar (first : Bool) (c : Char) : Bool :=
  c == '_' || Unicode.alphabetic.contains c ||
    (!first && (c == '.' || c == '[' || c == ']' || Unicode.inCategory "N" c))

/-- A name up to its closing bracket. -/
def groupName (cs : List Char) : Option (List Char × List Char) :=
  let name := cs.takeWhile (· != '>')
  match cs.drop name.length with
  | _ :: r =>
    match name with
    | [] => none
    | c :: n => if isNameChar true c && n.all (isNameChar false) then some (name, r) else none
  | [] => none

def openGroup (s : State) (captures : Bool) (inside : Flags) (rest : List Char) : State :=
  { s with
    rest := rest
    flags := inside
    group := ⟨captures, [], [], s.flags⟩
    outer := s.group :: s.outer }

def openNamed (s : State) (cs : List Char) : Option State :=
  match groupName cs with
  | none => none
  | some (n, r) => if s.names.contains n then none else some { s.openGroup true s.flags r with names := n :: s.names }

/-- A group from behind its parenthesis, or flags for the rest of the group it stands in. Looking
around is not possible. -/
def parenthesis (s : State) (cs : List Char) : Option State :=
  match s.flags.skipSpace cs with
  | '?' :: '=' :: _ | '?' :: '!' :: _ | '?' :: '<' :: '=' :: _ | '?' :: '<' :: '!' :: _ => none
  | '?' :: 'P' :: '<' :: r | '?' :: '<' :: r => s.openNamed r
  | '?' :: r =>
    match s.flags.read true [] r with
    | some (f, seen, ')' :: r) =>
      if seen.isEmpty then none else some { s.push ⟨.empty, 0, true⟩ r with flags := f }
    | some (f, _, ':' :: r) => some (s.openGroup false f r)
    | _ => none
  | r => some (s.openGroup true s.flags r)

def closeGroup (s : State) (rest : List Char) : Option State :=
  match s.outer with
  | [] => none
  | g :: outer =>
    let v := s.group.value
    let r := if s.group.captures then .capture v.regex else v.regex
    some ({ s with flags := s.group.outside, group := g, outer := outer }.push ⟨r, v.depth + 1, false⟩ rest)

def bar (s : State) (rest : List Char) : State :=
  { s with rest := rest, group := { s.group with items := [], ways := s.group.joined :: s.group.ways } }

/-! ## Repetition -/

/-- The last part, repeated. A question mark behind the count makes no difference to whether
the pattern matches. -/
def repeated (s : State) (least : Nat) (most : Option Nat) (rest : List Char) : Option State :=
  let rest := match rest with
    | '?' :: r => r
    | r => r
  match s.group.items with
  | [] => none
  | i :: is =>
    if i.isFlags then none
    else some { s with
      rest := rest
      group := { s.group with items := ⟨.rep i.regex least most, i.depth + 1, false⟩ :: is } }

/-- Decimal digits, with blanks between them passed over where they do not count. -/
def digits (f : Flags) : Nat → List Char → List Char × List Char
  | 0, cs => ([], cs)
  | _, [] => ([], [])
  | fuel + 1, c :: cs =>
    if c.isDigit then
      let (ds, r) := digits f fuel (f.skipSpace cs)
      (c :: ds, r)
    else ([], c :: cs)

/-- What a number turned out to be. -/
inductive Number where
  | missing
  | tooLarge
  | value (n : Nat)

/-- A number below `2 ^ 32`, with any blanks around it. -/
def number (f : Flags) (cs : List Char) : Number × List Char :=
  let cs := cs.dropWhile Text.isBlank
  let (ds, r) := digits f (cs.length + 1) cs
  let r := r.dropWhile Text.isBlank
  let n := ds.foldl (fun n c => 10 * n + (c.toNat - '0'.toNat)) 0
  (if ds.isEmpty then .missing else if Nat.pow 2 32 ≤ n then .tooLarge else .value n, r)

/-- A closing brace, and the blanks behind it where they do not count. -/
def endCount (f : Flags) : List Char → Option (List Char)
  | '\x7d' :: r => some (f.skipSpace r)
  | _ => none

/-- A count from behind its opening brace: exactly, at least, or between two numbers. -/
def count (s : State) (cs : List Char) : Option State :=
  let f := s.flags
  match number f (f.skipSpace cs) with
  | (.value least, ',' :: r) =>
    match f.skipSpace r with
    | '\x7d' :: r => s.repeated least none (f.skipSpace r)
    | r =>
      match number f r with
      | (.value most, r) =>
        if most < least then none else (endCount f r).bind fun r => s.repeated least (some most) r
      | _ => none
  | (.value n, r) => (endCount f r).bind fun r => s.repeated n (some n) r
  | _ => none

/-! ## All together -/

/-- The next part of the pattern, which begins with `c`. -/
def step (s : State) (c : Char) (r : List Char) : Option State :=
  let f := s.flags
  match c with
  | '(' => s.parenthesis r
  | ')' => s.closeGroup r
  | '|' => some (s.bar r)
  | '[' => (Bracket.read f r).map fun (p, r) => s.push ⟨.set p.set, p.depth, false⟩ r
  | '?' => s.repeated 0 (some 1) r
  | '*' => s.repeated 0 none r
  | '+' => s.repeated 1 none r
  | '\x7b' => s.count r
  | '\\' =>
    match Escape.read f r with
    | none => none
    | some (p, r) => (primitive f p).map fun x => s.push ⟨x, 0, false⟩ r
  | '.' => (point f).map fun x => s.push ⟨x, 0, false⟩ r
  | '^' => some (s.push ⟨.look (if f.multiLine then .lineStart f.crlf else .textStart), 0, false⟩ r)
  | '$' => some (s.push ⟨.look (if f.multiLine then .lineEnd f.crlf else .textEnd), 0, false⟩ r)
  | c => some (s.push ⟨literal f c, 0, false⟩ r)

/-- Steps to the end of the pattern. Each passes over a character, so that `fuel` above their number
is enough. -/
def run : Nat → State → Option Item
  | 0, _ => none
  | fuel + 1, s =>
    match s.flags.skipSpace s.rest with
    | [] => if s.outer.isEmpty then some s.group.value else none
    | c :: r => (s.step c r).bind (run fuel)

end State

/-- The expression of a pattern, unless the pattern is malformed or nests too deep. -/
def read (pattern : String) : Option Regex :=
  let cs := pattern.toList
  match State.run (cs.length + 1) ⟨cs, .default, ⟨false, [], [], .default⟩, [], []⟩ with
  | some i => if i.depth ≤ nestLimit then some i.regex else none
  | none => none

end DatasetLint.Pattern.Grammar
