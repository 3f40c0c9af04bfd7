import DatasetLint.Unicode.CharSet
import DatasetLint.Unicode.Property

/-!
# Regular expressions

What a regular expression matches, as a relation between places of a text, and a matcher that follows
all ways through a text at once: it takes the places that can be reached before an expression to those that
can be reached behind it.
-/

namespace DatasetLint.Pattern

/-- The characters that make up words: of all scripts, or of ASCII. -/
def wordChars (unicode : Bool) : Unicode.CharSet :=
  if unicode then Unicode.wordChars
  else .unions [.ofRange 'a' 'z', .ofRange 'A' 'Z', .ofRange '0' '9', .single '_']

/-- A condition on what is on both sides of a place. -/
inductive Look where
  | textStart
  | textEnd
  /-- Behind a line end; with `crlf` a carriage return ends a line too, but not inside of both. -/
  | lineStart (crlf : Bool)
  | lineEnd (crlf : Bool)
  /-- A place at which the sides differ in being part of a word. -/
  | wordBoundary (unicode : Bool)
  | notWordBoundary (unicode : Bool)
  | wordStart (unicode : Bool)
  | wordEnd (unicode : Bool)
  /-- No part of a word is on the left. -/
  | wordStartHalf (unicode : Bool)
  | wordEndHalf (unicode : Bool)
deriving DecidableEq, Repr

/-- Whether a condition holds between two characters; at an end of the text there is none. -/
def Look.holds (l : Look) (left right : Option Char) : Bool :=
  let word (u : Bool) (c : Option Char) : Bool := c.any (wordChars u).contains
  match l with
  | textStart => left.isNone
  | textEnd => right.isNone
  | lineStart false => left.all (· == '\n')
  | lineStart true => left.all fun c => c == '\n' || (c == '\r' && right != some '\n')
  | lineEnd false => right.all (· == '\n')
  | lineEnd true => right.all fun c => c == '\r' || (c == '\n' && left != some '\r')
  | wordBoundary u => word u left != word u right
  | notWordBoundary u => word u left == word u right
  | wordStart u => !word u left && word u right
  | wordEnd u => word u left && !word u right
  | wordStartHalf u => !word u left
  | wordEndHalf u => !word u right

inductive Regex where
  | empty
  | literal (c : Char)
  | set (s : Unicode.CharSet)
  | look (l : Look)
  /-- A group that remembers what it matched. -/
  | capture (r : Regex)
  | seq (a b : Regex)
  | alt (a b : Regex)
  | rep (r : Regex) (least : Nat) (most : Option Nat)
deriving DecidableEq, Repr, Inhabited

/-- A text whose places are numbered: place `i` is before character `i`. -/
abbrev Subject := Array Char

/-- The character on the left of a place. -/
def leftOf (t : Subject) : Nat → Option Char
  | 0 => none
  | i + 1 => t[i]?

namespace Regex

/-- `Matches t r i j`: the expression matches the text `t` from place `i` to place `j`. -/
inductive Matches (t : Subject) : Regex → Nat → Nat → Prop where
  | empty (i : Nat) : Matches t .empty i i
  | literal {c : Char} {i : Nat} (h : t[i]? = some c) : Matches t (.literal c) i (i + 1)
  | set {s : Unicode.CharSet} {c : Char} {i : Nat} (h : t[i]? = some c) (hc : s.contains c = true) :
      Matches t (.set s) i (i + 1)
  | look {l : Look} {i : Nat} (h : l.holds (leftOf t i) t[i]? = true) : Matches t (.look l) i i
  | capture {r : Regex} {i j : Nat} (h : Matches t r i j) : Matches t (.capture r) i j
  | seq {a b : Regex} {i j k : Nat} (h : Matches t a i j) (h' : Matches t b j k) : Matches t (.seq a b) i k
  | altLeft {a b : Regex} {i j : Nat} (h : Matches t a i j) : Matches t (.alt a b) i j
  | altRight {a b : Regex} {i j : Nat} (h : Matches t b i j) : Matches t (.alt a b) i j
  | repDone {r : Regex} {most : Option Nat} (i : Nat) : Matches t (.rep r 0 most) i i
  | repMust {r : Regex} {n : Nat} {most : Option Nat} {i j k : Nat} (h : Matches t r i j)
      (h' : Matches t (.rep r n (most.map (· - 1))) j k) (hm : most ≠ some 0) :
      Matches t (.rep r (n + 1) most) i k
  | repMay {r : Regex} {most : Option Nat} {i j k : Nat} (h : Matches t r i j)
      (h' : Matches t (.rep r 0 (most.map (· - 1))) j k) (hm : most ≠ some 0) :
      Matches t (.rep r 0 most) i k

/-! ## Sets of places -/

/-- Two increasing lists of places as one. -/
def merge : List Nat → List Nat → List Nat
  | [], qs => qs
  | ps, [] => ps
  | p :: ps, q :: qs =>
    if p < q then p :: merge ps (q :: qs)
    else if q < p then q :: merge (p :: ps) qs
    else p :: merge ps qs
termination_by ps qs => ps.length + qs.length

/-- The `n`-th iterate of `step`, which stops where a step changes nothing. -/
def iterate (step : List Nat → List Nat) : Nat → List Nat → List Nat
  | 0, ps => ps
  | n + 1, ps => let qs := step ps; if qs = ps then ps else iterate step n qs

/-- The places that at most `n` steps reach. -/
def reach (step : List Nat → List Nat) : Nat → List Nat → List Nat
  | 0, ps => ps
  | n + 1, ps => let qs := merge ps (step ps); if qs = ps then ps else reach step n qs

/-- The places that an expression reaches from some places. -/
def ends (t : Subject) : Regex → List Nat → List Nat
  | empty, ps => ps
  | literal c, ps => (ps.filter fun i => t[i]? == some c).map (· + 1)
  | set s, ps => (ps.filter fun i => t[i]?.any s.contains).map (· + 1)
  | look l, ps => ps.filter fun i => l.holds (leftOf t i) t[i]?
  | capture r, ps => ends t r ps
  | seq a b, ps => ends t b (ends t a ps)
  | alt a b, ps => merge (ends t a ps) (ends t b ps)
  | rep r least most, ps =>
    let further := match most with
      | some m => m - least
      | none => t.size + 1
    reach (ends t r) further (iterate (ends t r) least ps)

/-- Whether the expression matches somewhere in a text. -/
def isMatch (r : Regex) (s : String) : Bool :=
  let t : Subject := s.toList.toArray
  !(ends t r (List.range (t.size + 1))).isEmpty

end Regex

end DatasetLint.Pattern
