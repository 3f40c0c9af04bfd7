/-!
# Tables of character properties

A set of characters is kept as the code points at which membership changes, a map as the code points
at which a run of one value starts. In the tables these are written as distances in base 36, so that
the data of the Unicode standard stay short.
-/

namespace DatasetLint.Unicode

/-- The value of a digit in base 36. -/
private def digit36 (c : Char) : Nat :=
  if c.isDigit then c.toNat - '0'.toNat else c.toNat - 'a'.toNat + 10

/-- A number in base 36. -/
def number36 (s : List Char) : Nat := s.foldl (fun n c => 36 * n + digit36 c) 0

/-- The words of a text, which single spaces separate. -/
def words : List Char → List (List Char)
  | [] => [[]]
  | c :: cs =>
    match words cs with
    | [] => [[c]]
    | w :: ws => if c = ' ' then [] :: w :: ws else (c :: w) :: ws

/-- Running sums. -/
def sums (start : Nat) : List Nat → List Nat
  | [] => []
  | d :: ds => (start + d) :: sums (start + d) ds

/-- How many of the sorted numbers `a[lo], …, a[hi - 1]` are at most `x`, plus `lo`. -/
def countUpTo (a : Array Nat) (x : Nat) (lo hi : Nat) : Nat :=
  if lo < hi then
    let mid := (lo + hi) / 2
    if a.getD mid 0 ≤ x then countUpTo a x (mid + 1) hi else countUpTo a x lo mid
  else lo
termination_by hi - lo

/-- A set of characters, as the code points at which membership changes. -/
structure CharSet where
  bounds : Array Nat
deriving DecidableEq, Repr, Inhabited

namespace CharSet

/-- A set from the distances between its bounds, in lines of words. -/
def ofDistances (lines : List String) : CharSet :=
  ⟨(sums 0 ((lines.flatMap fun s => words s.toList).map number36)).toArray⟩

/-- A code point is in the set if an odd number of bounds is at most it. -/
def containsCode (s : CharSet) (n : Nat) : Bool := countUpTo s.bounds n 0 s.bounds.size % 2 == 1

def contains (s : CharSet) (c : Char) : Bool := s.containsCode c.toNat

def empty : CharSet := ⟨#[]⟩

/-- The characters from `lo` to `hi`. -/
def ofRange (lo hi : Char) : CharSet := if hi < lo then empty else ⟨#[lo.toNat, hi.toNat + 1]⟩

def single (c : Char) : CharSet := ofRange c c

/-- The bounds of a combination of two sets. `inA` and `inB` tell whether the code points before the
next bound are in the sets; a code point in neither is not in the combination. -/
def combineBounds (keep : Bool → Bool → Bool) (inA inB : Bool) : List Nat → List Nat → List Nat
  | [], [] => []
  | a :: as, [] =>
    let rest := combineBounds keep (!inA) inB as []
    if keep inA inB == keep (!inA) inB then rest else a :: rest
  | [], b :: bs =>
    let rest := combineBounds keep inA (!inB) [] bs
    if keep inA inB == keep inA (!inB) then rest else b :: rest
  | a :: as, b :: bs =>
    if a < b then
      let rest := combineBounds keep (!inA) inB as (b :: bs)
      if keep inA inB == keep (!inA) inB then rest else a :: rest
    else if b < a then
      let rest := combineBounds keep inA (!inB) (a :: as) bs
      if keep inA inB == keep inA (!inB) then rest else b :: rest
    else
      let rest := combineBounds keep (!inA) (!inB) as bs
      if keep inA inB == keep (!inA) (!inB) then rest else a :: rest
termination_by as bs => as.length + bs.length

/-- The characters that `keep` wants, given in which of two sets they are. -/
def combine (keep : Bool → Bool → Bool) (s t : CharSet) : CharSet :=
  ⟨(combineBounds keep false false s.bounds.toList t.bounds.toList).toArray⟩

def union (s t : CharSet) : CharSet := combine (fun a b => a || b) s t

def inter (s t : CharSet) : CharSet := combine (fun a b => a && b) s t

def diff (s t : CharSet) : CharSet := combine (fun a b => a && !b) s t

def symmDiff (s t : CharSet) : CharSet := combine (fun a b => a != b) s t

/-- All characters that are not in the set. -/
def compl (s : CharSet) : CharSet :=
  match s.bounds.toList with
  | 0 :: bs => ⟨bs.toArray⟩
  | bs => ⟨(0 :: bs).toArray⟩

/-- Increasing code points as runs without gaps. -/
def boundsOf : List Nat → List Nat
  | [] => []
  | [n] => [n, n + 1]
  | n :: m :: r => if m ≤ n + 1 then
      match boundsOf (m :: r) with
      | _ :: bs => n :: bs
      | [] => []
    else n :: (n + 1) :: boundsOf (m :: r)

/-- A code point put in its place among increasing ones. -/
def insertCode (n : Nat) : List Nat → List Nat
  | [] => [n]
  | m :: r => if n ≤ m then n :: m :: r else m :: insertCode n r

/-- The set of some characters. -/
def ofList (cs : List Char) : CharSet := ⟨(boundsOf ((cs.map Char.toNat).foldr insertCode [])).toArray⟩

/-- The union of some sets. -/
def unions (ss : List CharSet) : CharSet := ss.foldl union empty

/-- The runs of code points in the set, from the first to the last of each; the last of all code points
ends a run that has no end of its own. -/
def runs (s : CharSet) : List (Nat × Nat) :=
  let rec pairs : List Nat → List (Nat × Nat)
    | a :: b :: r => (a, b - 1) :: pairs r
    | [a] => [(a, 0x10FFFF)]
    | [] => []
  pairs s.bounds.toList

/-- Whether only ASCII characters are in the set. -/
def isAscii (s : CharSet) : Bool := s.runs.all fun r => r.2 < 0x80

end CharSet

/-- A map from characters, as runs of one value and the code points at which they start. -/
structure CharMap (α : Type) where
  starts : Array Nat
  values : Array α
deriving Repr, Inhabited

namespace CharMap

/-- The run that a code point is in: its start and its value. -/
def run? {α : Type} (m : CharMap α) (n : Nat) : Option (Nat × α) :=
  let k := countUpTo m.starts n 0 m.starts.size
  match k with
  | 0 => none
  | i + 1 => m.values[i]?.map (m.starts.getD i 0, ·)

def get? {α : Type} (m : CharMap α) (c : Char) : Option α := (m.run? c.toNat).map (·.2)

/-- A map from words in pairs: a distance and a value. -/
def ofWords {α : Type} (value : List Char → α) (ws : List (List Char)) : CharMap α :=
  let rec pairs : List (List Char) → List (Nat × α)
    | d :: v :: r => (number36 d, value v) :: pairs r
    | _ => []
  let ps := pairs ws
  ⟨(sums 0 (ps.map (·.1))).toArray, (ps.map (·.2)).toArray⟩

/-- A map from lines of such words. -/
def ofPairs {α : Type} (value : List Char → α) (lines : List String) : CharMap α :=
  ofWords value (lines.flatMap fun s => words s.toList)

/-- The characters whose value satisfies `p`. -/
def preimage {α : Type} (m : CharMap α) (p : α → Bool) : CharSet :=
  let rec bounds (inside : Bool) : List (Nat × α) → List Nat
    | [] => []
    | (start, v) :: r => if p v == inside then bounds inside r else start :: bounds (!inside) r
  ⟨(bounds false (m.starts.toList.zip m.values.toList)).toArray⟩

end CharMap

end DatasetLint.Unicode
