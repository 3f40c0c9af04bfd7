import DatasetLint.Pattern.Regex

/-!
# The size of an automaton

How many octets an automaton takes that reads UTF-8 octet by octet and has a state for every octet that an
expression may be at. Counted repetition copies its expression, and a set of characters needs a state
for every beginning of the octet sequences that its characters have.
-/

namespace DatasetLint.Pattern.Size

/-- The octets of a state. -/
def state : Nat := 32

/-- The octets of a transition out of a state that has many. -/
def transition : Nat := 8

/-- The octets of a way out of a branching state. -/
def branch : Nat := 4

/-- The most that an automaton may take. -/
def limit : Nat := 10485760

/-! ## Octet sequences -/

/-- The last code points of one, two and three octets. -/
def widthEnds : List Nat := [0x7F, 0x7FF, 0xFFFF]

/-- The octets of a code point. -/
def octetsOf (n : Nat) : List Nat :=
  if n ≤ 0x7F then [n]
  else if n ≤ 0x7FF then [0xC0 + n / 64, 0x80 + n % 64]
  else if n ≤ 0xFFFF then [0xE0 + n / 4096, 0x80 + n / 64 % 64, 0x80 + n % 64]
  else [0xF0 + n / 262144, 0x80 + n / 4096 % 64, 0x80 + n / 64 % 64, 0x80 + n % 64]

/-- The last code point of a first part of the run from `lo` to `hi`, if the run has to be cut: at the
surrogates, where the width changes, or where the octets behind the first that differ are not all
there. -/
def cut? (lo hi : Nat) : Option Nat :=
  let widths := widthEnds.find? fun m => lo ≤ m && m < hi
  match widths with
  | some m => some m
  | none =>
    if hi ≤ 0x7F then none
    else
      [64, 4096, 262144].findSome? fun m =>
        if lo / m == hi / m then none
        else if lo % m != 0 then some (lo / m * m + m - 1)
        else if hi % m != m - 1 then some (hi / m * m - 1)
        else none

/-- A run as sequences of ranges of octets. Cutting it into single code points would always do, but few
cuts are enough. -/
def sequences : Nat → Nat → Nat → List (List (Nat × Nat))
  | 0, _, _ => []
  | fuel + 1, lo, hi =>
    if hi < lo then []
    else if lo < 0xE000 ∧ 0xD7FF < hi then sequences fuel lo 0xD7FF ++ sequences fuel 0xE000 hi
    else if 0xD800 ≤ lo ∧ lo ≤ 0xDFFF then sequences fuel 0xE000 hi
    else
      match cut? lo hi with
      | some m => sequences fuel lo m ++ sequences fuel (m + 1) hi
      | none => [(octetsOf lo).zip (octetsOf hi)]

/-- The number of different nonempty beginnings of some sequences. -/
def beginnings (ss : List (List (Nat × Nat))) : Nat :=
  let all := ss.flatMap fun s => (List.range s.length).map fun n =>
    (s.take (n + 1)).map fun r => 256 * r.1 + r.2
  let sorted := all.mergeSort fun a b => @decide _ (List.decidableLE a b)
  (sorted.zip (sorted.drop 1)).countP (fun p => p.1 != p.2) + (if sorted.isEmpty then 0 else 1)

/-- The states that read one character of a set. -/
def ofSet (s : Unicode.CharSet) : Nat :=
  let rs := s.runs
  if rs.isEmpty then state
  else if s.isAscii then 2 * state + transition * rs.length
  else
    let ss := rs.flatMap fun r => sequences 64 r.1 r.2
    2 * state + branch * ss.length + state * beginnings ss

/-! ## Expressions -/

/-- Whether an expression matches nothing but the empty text. -/
def isEmptyOnly : Regex → Bool
  | .empty | .look _ => true
  | .literal _ | .set _ => false
  | .capture r => isEmptyOnly r
  | .seq a b | .alt a b => isEmptyOnly a && isEmptyOnly b
  | .rep r _ most => most == some 0 || isEmptyOnly r

/-- The octets of the automaton of an expression. -/
def ofRegex : Regex → Nat
  | .empty | .look _ => state
  | .literal c => state * c.utf8Size
  | .set s => ofSet s
  | .capture r => ofRegex r + 2 * state
  | .seq a b => ofRegex a + ofRegex b
  | .alt (.alt a b) c => ofRegex (.alt a b) + ofRegex c + branch
  | .alt a b => ofRegex a + ofRegex b + 2 * state + 2 * branch
  | .rep r least most =>
    let once := ofRegex r
    let least := if isEmptyOnly r then min least 1 else least
    let way := state + 2 * branch
    match most with
    | none => max least 1 * once + way
    | some m =>
      let m := if isEmptyOnly r then min m 1 else m
      if m ≤ least then (if least = 0 then state else least * once)
      else least * once + (m - least) * (once + way) + state

end DatasetLint.Pattern.Size
