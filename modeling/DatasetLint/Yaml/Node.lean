import DatasetLint.Yaml.Token

/-!
# Nodes

The tree of a document. Where the text is ill-formed the tree ends in `broken`, so a reader that
walks it in document order meets everything before that place first. An anchor is known by its
number: how many distinct names were anchored before it. A name anchored again takes a new
number, and of several nodes with one number the last in the text is meant.
-/

namespace DatasetLint.Yaml

/-- A node of a document. -/
inductive Node where
  | scalar (mark : Mark) (anchor : Option Nat) (tag : Option String) (text : String) (style : Style)
  | sequence (mark : Mark) (anchor : Option Nat) (tag : Option String) (items : List Node)
  | mapping (mark : Mark) (anchor : Option Nat) (tag : Option String) (entries : List (Node × Node))
  /-- A reference to the node of the anchor, or to none. -/
  | reference (mark : Mark) (target : Option Nat)
  /-- The text is ill-formed from here on. -/
  | broken
deriving Repr, Inhabited

namespace Node

/-- The empty scalar that stands where a node is left out. -/
def empty (m : Mark) : Node := scalar m none none "" .plain

def mark : Node → Mark
  | scalar m .. => m
  | sequence m .. => m
  | mapping m .. => m
  | reference m _ => m
  | broken => .start

/-- Whether nothing can follow: the node, or a part of it, is broken or refers to no anchor. -/
def isStop : Node → Bool
  | broken => true
  | reference _ none => true
  | _ => false

mutual
/-- A node and the nodes below it, in the order in which they start. -/
def walk : Node → List Node
  | x@(sequence _ _ _ items) => x :: walkItems items
  | x@(mapping _ _ _ entries) => x :: walkEntries entries
  | x => [x]

def walkItems : List Node → List Node
  | [] => []
  | x :: xs => walk x ++ walkItems xs

def walkEntries : List (Node × Node) → List Node
  | [] => []
  | (k, v) :: es => walk k ++ (walk v ++ walkEntries es)
end

def anchor? : Node → Option Nat
  | scalar _ a _ _ _ => a
  | sequence _ a _ _ => a
  | mapping _ a _ _ => a
  | _ => none

/-- The nodes with an anchor, in the order in which they start. -/
def anchored (x : Node) : List (Nat × Node) := x.walk.filterMap fun y => y.anchor?.map (·, y)

/-- The first place behind which nothing is known. -/
def firstStop (x : Node) : Option Node := x.walk.find? isStop

mutual
/-- How many events a node makes: a scalar and an alias one, a collection one for its start and one
for its end. The second part tells whether the count reached the end of the node. -/
def events : Node → Nat × Bool
  | scalar .. => (1, true)
  | sequence _ _ _ items => let r := eventsItems items; (1 + r.1 + r.2.toNat, r.2)
  | mapping _ _ _ entries => let r := eventsEntries entries; (1 + r.1 + r.2.toNat, r.2)
  | reference _ target => (target.isSome.toNat, target.isSome)
  | broken => (0, false)

def eventsItems : List Node → Nat × Bool
  | [] => (0, true)
  | x :: xs =>
    let a := events x
    let b := eventsItems xs
    if a.2 then (a.1 + b.1, b.2) else a

def eventsEntries : List (Node × Node) → Nat × Bool
  | [] => (0, true)
  | (k, v) :: es =>
    let a := events k
    let b := events v
    let c := eventsEntries es
    if !a.2 then a else if !b.2 then (a.1 + b.1, false) else (a.1 + b.1 + c.1, c.2)
end

end Node

end DatasetLint.Yaml
