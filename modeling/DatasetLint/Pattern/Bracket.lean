import DatasetLint.Pattern.Escape

/-!
# Sets in brackets

A set lists characters, ranges and other sets, perhaps all but those. Two sets can be combined by `&&`,
`--` and `~~`, which bind alike and from the left; brackets nest. Where case does not count, a set is
closed under case before it is negated or combined.
-/

namespace DatasetLint.Pattern.Bracket

open Unicode

/-- How two sets are combined. -/
inductive Operator where
  | inter
  | diff
  | symmDiff
deriving DecidableEq, Repr

def Operator.apply : Operator → CharSet → CharSet → CharSet
  | inter, s, t => s.inter t
  | diff, s, t => s.diff t
  | symmDiff, s, t => s.symmDiff t

/-- A set and how deep brackets, lists and combinations nest in it. -/
structure Part where
  set : CharSet
  depth : Nat

/-- Brackets that are not closed yet: the parts since the last operator, and what is before it. -/
structure Level where
  negated : Bool
  parts : List Part
  pending : Option (Operator × Part)

/-- A set closed under case, where case does not count. -/
def folded (f : Flags) (s : CharSet) : CharSet :=
  if !f.ignoreCase then s
  else if f.unicode then closeUnderCase s
  else
    let moved (lo hi : Char) (move : Nat → Nat) : CharSet := ⟨(s.inter (.ofRange lo hi)).bounds.map move⟩
    s.union ((moved 'a' 'z' (· - 32)).union (moved 'A' 'Z' (· + 32)))

/-- What is not in a set. Without Unicode that would reach beyond the characters. -/
def negate (f : Flags) (s : CharSet) : Option CharSet := if f.unicode then some s.compl else none

namespace Level

def push (l : Level) (p : Part) : Level := { l with parts := p :: l.parts }

/-- The parts since the last operator as one. -/
def listed (l : Level) : Part :=
  match l.parts with
  | [] => ⟨.empty, 0⟩
  | [p] => p
  | ps => ⟨.unions (ps.map (·.set)), 1 + (ps.map (·.depth)).foldl max 0⟩

/-- All up to here as one. -/
def value (f : Flags) (l : Level) : Part :=
  let right := l.listed
  match l.pending with
  | none => right
  | some (op, left) => ⟨op.apply (folded f left.set) (folded f right.set), 1 + max left.depth right.depth⟩

/-- An operator behind all up to here. -/
def operator (f : Flags) (l : Level) (op : Operator) : Level := ⟨l.negated, [], some (op, l.value f)⟩

/-- The set of closed brackets. -/
def close (f : Flags) (l : Level) : Option Part :=
  let p := l.value f
  let s := folded f p.set
  (if l.negated then negate f s else some s).map (⟨·, p.depth + 1⟩)

end Level

/-- Leading minus signs, which stand for themselves. -/
def leadingDashes (f : Flags) : Nat → Level → List Char → Level × List Char
  | fuel + 1, l, '-' :: r => leadingDashes f fuel (l.push ⟨.single '-', 0⟩) (f.skipSpace r)
  | _, l, cs => (l, cs)

/-- Brackets from behind the opening one: perhaps negated, and with a closing bracket as its first
character. -/
def opened (f : Flags) (cs : List Char) : Level × List Char :=
  let cs := f.skipSpace cs
  let (negated, cs) := match cs with
    | '^' :: r => (true, f.skipSpace r)
    | cs => (false, cs)
  let (l, cs) := leadingDashes f cs.length ⟨negated, [], none⟩ cs
  match cs with
  | ']' :: r => if l.parts.isEmpty then (l.push ⟨.single ']', 0⟩, f.skipSpace r) else (l, cs)
  | cs => (l, cs)

/-- A class of ASCII from behind its bracket, such as `:alpha:]` or `:^alpha:]`. -/
def asciiAt? (f : Flags) (cs : List Char) : Option (Option CharSet × List Char) :=
  match cs with
  | ':' :: r =>
    let (negated, r) := match r with
      | '^' :: r => (true, r)
      | r => (false, r)
    let name := r.takeWhile (· != ':')
    match r.drop name.length with
    | ':' :: ']' :: rest =>
      (asciiClass? (String.ofList name)).map fun s =>
        (if negated then negate f (folded f s) else some (folded f s), rest)
    | _ => none
  | _ => none

/-- A character or an escape. -/
def item (f : Flags) : List Char → Option (Primitive × List Char)
  | [] => none
  | '\\' :: r => Escape.read f r
  | c :: r => some (.char c false, r)

/-- A character of a set; without Unicode it must be one of ASCII. -/
def charOf (f : Flags) : Primitive → Option Char
  | .char c _ => if f.unicode || c.toNat < 0x80 then some c else none
  | _ => none

/-- What an item stands for on its own. -/
def setOf (f : Flags) : Primitive → Option CharSet
  | .set s => some s
  | .look _ => none
  | p => (charOf f p).map .single

/-- An item, or two with a minus sign between them as a range. -/
def range (f : Flags) (cs : List Char) : Option (CharSet × List Char) :=
  match item f cs with
  | none => none
  | some (a, r) =>
    match f.skipSpace r with
    | [] => none
    | '-' :: r' =>
      let next := f.peekSpace false r'
      if next == some ']' || next == some '-' then (setOf f a).map (·, '-' :: r')
      else
        match item f (f.skipSpace r') with
        | none => none
        | some (b, r'') =>
          match charOf f a, charOf f b with
          | some lo, some hi => if hi < lo then none else some (.ofRange lo hi, r'')
          | _, _ => none
    | r' => (setOf f a).map (·, r')

/-- The rest of some brackets, the innermost level apart. `fuel` bounds the items left. -/
def rest (f : Flags) : Nat → List Level → Level → List Char → Option (Part × List Char)
  | 0, _, _, _ => none
  | fuel + 1, outer, l, cs =>
    match f.skipSpace cs with
    | [] => none
    | '[' :: r =>
      match asciiAt? f r with
      | some (some s, r) => rest f fuel outer (l.push ⟨s, 0⟩) r
      | some (none, _) => none
      | none =>
        let (inner, r) := opened f r
        rest f fuel (l :: outer) inner r
    | ']' :: r =>
      match l.close f, outer with
      | none, _ => none
      | some p, [] => some (p, r)
      | some p, l :: outer => rest f fuel outer (l.push p) r
    | '&' :: '&' :: r => rest f fuel outer (l.operator f .inter) r
    | '-' :: '-' :: r => rest f fuel outer (l.operator f .diff) r
    | '~' :: '~' :: r => rest f fuel outer (l.operator f .symmDiff) r
    | cs =>
      match range f cs with
      | none => none
      | some (s, r) => rest f fuel outer (l.push ⟨s, 0⟩) r

/-- A set from behind its opening bracket. -/
def read (f : Flags) (cs : List Char) : Option (Part × List Char) :=
  let (l, r) := opened f cs
  rest f (cs.length + 1) [] l r

end DatasetLint.Pattern.Bracket
