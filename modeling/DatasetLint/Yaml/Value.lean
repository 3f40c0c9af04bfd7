import DatasetLint.Yaml.Scalar

/-!
# Values

A document read without regard to what it is for: scalars by their meaning, collections, and the tags
that begin with an exclamation mark. Keys of a mapping may be any values, no two of them the same; the
order of a mapping's entries does not matter for that.
-/

namespace DatasetLint.Yaml

open Decimal

inductive Value where
  | scalar (value : Scalar)
  | sequence (items : List Value)
  | mapping (entries : List (Value × Value))
  | tagged (tag : String) (value : Value)
deriving Repr, Inhabited

namespace Scalar

/-- Equality of scalars: a NaN equals itself, and both zeros are equal. -/
def same : Scalar → Scalar → Bool
  | float a, float b => a.same b
  | a, b => a == b

end Scalar

namespace Value

mutual
/-- How deep a value nests. -/
def depth : Value → Nat
  | scalar _ => 0
  | sequence items => depthItems items + 1
  | mapping entries => depthEntries entries + 1
  | tagged _ v => depth v + 1

def depthItems : List Value → Nat
  | [] => 0
  | v :: vs => max (depth v) (depthItems vs)

def depthEntries : List (Value × Value) → Nat
  | [] => 0
  | (k, v) :: es => max (max (depth k) (depth v)) (depthEntries es)
end

/-- The same number of elements, equal in pairs. -/
def allSame {α : Type} (same : α → α → Bool) : List α → List α → Bool
  | [], [] => true
  | a :: as, b :: bs => same a b && allSame same as bs
  | _, _ => false

/-- Equality down to a depth. Mappings are equal if they have equally many entries and every entry of
one is in the other. -/
def sameUpTo : Nat → Value → Value → Bool
  | 0, _, _ => false
  | n + 1, a, b =>
    match a, b with
    | scalar x, scalar y => x.same y
    | sequence xs, sequence ys => allSame (sameUpTo n) xs ys
    | mapping xs, mapping ys =>
      xs.length == ys.length &&
        xs.all fun (k, v) =>
          match ys.find? fun e => sameUpTo n e.1 k with
          | some e => sameUpTo n v e.2
          | none => false
    | tagged t x, tagged u y => t == u && sameUpTo n x y
    | _, _ => false

def same (a b : Value) : Bool := sameUpTo (a.depth + 1) a b

end Value

end DatasetLint.Yaml
