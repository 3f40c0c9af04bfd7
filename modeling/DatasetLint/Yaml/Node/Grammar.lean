import DatasetLint.Yaml.Node

/-!
# From tokens to nodes

A recursive reading of the tokens. Each function gives what it read and the tokens left over, or no
tokens where the text is ill-formed; what it read then ends in `Node.broken`. The names of anchors
are numbered on the way, in the order in which their nodes start.
-/

namespace DatasetLint.Yaml

/-- The names anchored so far, the latest first, with their numbers. -/
abbrev Anchors := List (String × Nat)

namespace Anchors

/-- How many distinct names are anchored. -/
def distinct (a : Anchors) : Nat := (a.map (·.1)).eraseDups.length

/-- A name is anchored, for the first time or again. -/
def add (a : Anchors) (name : Option String) : Option Nat × Anchors :=
  match name with
  | none => (none, a)
  | some n => (some a.distinct, (n, a.distinct) :: a)

end Anchors

/-- The tag handles of a document and what they stand for. -/
abbrev Handles := List (String × String)

/-- The handles that every document has. -/
def Handles.standard : Handles := [("!", "!"), ("!!", "tag:yaml.org,2002:")]

/-- What was read, the tokens left over, and the anchors known then. -/
structure Parsed (α : Type) where
  value : α
  rest : Option (List Token)
  anchors : Anchors

namespace Parsed

def map {α β : Type} (f : α → β) (p : Parsed α) : Parsed β := ⟨f p.value, p.rest, p.anchors⟩

/-- The text is ill-formed here. -/
def broken (a : Anchors) : Parsed Node := ⟨.broken, none, a⟩

/-- A part, and the rest of a list if the text goes on. -/
def cons {α : Type} (p : Parsed α) (next : List Token → Anchors → Parsed (List α)) : Parsed (List α) :=
  match p.rest with
  | none => ⟨[p.value], none, p.anchors⟩
  | some ts => (next ts p.anchors).map (p.value :: ·)

/-- A key and its value, which is broken where the key is. -/
def pair (p : Parsed Node) (next : List Token → Anchors → Parsed Node) : Parsed (Node × Node) :=
  match p.rest with
  | none => ⟨(p.value, .broken), none, p.anchors⟩
  | some ts => (next ts p.anchors).map (p.value, ·)

end Parsed

/-- The anchor and tag in front of a node. -/
structure Properties where
  anchor : Option String
  tag : Option (String × String)
  rest : List Token

namespace Properties

/-- An anchor and a tag in either order, each at most once. -/
def ofTokens : List Token → Properties
  | ⟨.anchor a, _, _⟩ :: ⟨.tag h t, _, _⟩ :: r => ⟨some a, some (h, t), r⟩
  | ⟨.anchor a, _, _⟩ :: r => ⟨some a, none, r⟩
  | ⟨.tag h t, _, _⟩ :: ⟨.anchor a, _, _⟩ :: r => ⟨some a, some (h, t), r⟩
  | ⟨.tag h t, _, _⟩ :: r => ⟨none, some (h, t), r⟩
  | r => ⟨none, none, r⟩

/-- The full tag, if its handle is known; a verbatim tag has no handle. -/
def fullTag? (handles : Handles) (p : Properties) : Option (Option String) :=
  match p.tag with
  | none => some none
  | some (h, t) => if h = "" then some (some t) else (handles.lookup h).map fun lead => some (lead ++ t)

end Properties

namespace Grammar

open Token

/-- The kind of the next token. -/
def next? (ts : List Token) : Option Kind := ts.head?.map (·.kind)

/-- Whether the next token is of one of some kinds. -/
def isNext (ks : List Kind) (ts : List Token) : Bool := (next? ts).any (ks.contains ·)

/-- The position of the next token. -/
def startOf (ts : List Token) : Mark := (ts.head?.map (·.start)).getD .start

/-- The empty scalar at a position, nothing being consumed. -/
def omitted (m : Mark) (ts : List Token) (a : Anchors) : Parsed Node := ⟨.empty m, some ts, a⟩

/-- A node where one may be left out: empty at `m` before some kinds of tokens. -/
def optional (m : Mark) (before : List Kind) (read : List Token → Anchors → Parsed Node)
    (ts : List Token) (a : Anchors) : Parsed Node :=
  if ts.isEmpty then .broken a else if isNext before ts then omitted m ts a else read ts a

mutual

/-- A node with its properties. `block` admits block collections, and `indentless` also a
sequence whose dashes are no deeper than the enclosing mapping. -/
def node (handles : Handles) (block indentless : Bool) : Nat → List Token → Anchors → Parsed Node
  | 0, _, a => .broken a
  | n + 1, ts, a =>
    match ts with
    | [] => .broken a
    | ⟨.reference name, m, _⟩ :: r => ⟨.reference m (a.lookup name), some r, a⟩
    | first :: _ =>
      let m := first.start
      let p := Properties.ofTokens ts
      match p.fullTag? handles with
      | none => .broken a
      | some tag =>
        let (anchor, a) := a.add p.anchor
        match p.rest with
        | [] => .broken a
        | ⟨k, _, _⟩ :: r =>
          if k = .blockEntry ∧ indentless then
            (indentlessItems handles n p.rest a).map (.sequence m anchor tag ·)
          else
            match k with
            | .scalar text style =>
              ⟨.scalar m anchor (if tag = some "!" then none else tag) text style, some r, a⟩
            | .flowSequenceStart => (flowItems handles true n r a).map (.sequence m anchor tag ·)
            | .flowMappingStart => (flowEntries handles true n r a).map (.mapping m anchor tag ·)
            | .blockSequenceStart =>
              if block then (blockItems handles n r a).map (.sequence m anchor tag ·) else .broken a
            | .blockMappingStart =>
              if block then (blockEntries handles n r a).map (.mapping m anchor tag ·) else .broken a
            | _ =>
              if p.anchor.isSome || tag.isSome then ⟨.scalar m anchor tag "" .plain, some p.rest, a⟩
              else .broken a

/-- The items of a block sequence, each behind a dash, up to the end of the block. -/
def blockItems (handles : Handles) : Nat → List Token → Anchors → Parsed (List Node)
  | 0, _, a => ⟨[.broken], none, a⟩
  | n + 1, ts, a =>
    match ts with
    | ⟨.blockEntry, _, m⟩ :: r =>
      (optional m [.blockEntry, .blockEnd] (node handles true false n) r a).cons (blockItems handles n)
    | ⟨.blockEnd, _, _⟩ :: r => ⟨[], some r, a⟩
    | _ => ⟨[.broken], none, a⟩

/-- The items of a sequence whose dashes are no deeper than the enclosing mapping. -/
def indentlessItems (handles : Handles) : Nat → List Token → Anchors → Parsed (List Node)
  | 0, _, a => ⟨[.broken], none, a⟩
  | n + 1, ts, a =>
    match ts with
    | [] => ⟨[.broken], none, a⟩
    | ⟨.blockEntry, _, m⟩ :: r =>
      (optional m [.blockEntry, .key, .value, .blockEnd] (node handles true false n) r a).cons
        (indentlessItems handles n)
    | ts => ⟨[], some ts, a⟩

/-- The entries of a block mapping up to the end of the block. -/
def blockEntries (handles : Handles) : Nat → List Token → Anchors → Parsed (List (Node × Node))
  | 0, _, a => ⟨[(.broken, .broken)], none, a⟩
  | n + 1, ts, a =>
    match ts with
    | ⟨.key, _, m⟩ :: r =>
      ((optional m [.key, .value, .blockEnd] (node handles true true n) r a).pair
        (blockValue handles n)).cons (blockEntries handles n)
    | ⟨.blockEnd, _, _⟩ :: r => ⟨[], some r, a⟩
    | _ => ⟨[(.broken, .broken)], none, a⟩

/-- The value of an entry of a block mapping. -/
def blockValue (handles : Handles) : Nat → List Token → Anchors → Parsed Node
  | 0, _, a => .broken a
  | n + 1, ts, a =>
    match ts with
    | [] => .broken a
    | ⟨.value, _, m⟩ :: r => optional m [.key, .value, .blockEnd] (node handles true true n) r a
    | ts => omitted (startOf ts) ts a

/-- The items of a flow sequence up to its closing bracket. A key makes a mapping of one entry. -/
def flowItems (handles : Handles) (first : Bool) : Nat → List Token → Anchors → Parsed (List Node)
  | 0, _, a => ⟨[.broken], none, a⟩
  | n + 1, ts, a =>
    let item (ts : List Token) : Parsed (List Node) :=
      match ts with
      | [] => ⟨[.broken], none, a⟩
      | ⟨.flowSequenceEnd, _, _⟩ :: r => ⟨[], some r, a⟩
      | ⟨.key, m, _⟩ :: r => ((singleEntry handles n r a).map fun e => .mapping m none none [e]).cons
          (flowItems handles false n)
      | ts => (node handles false false n ts a).cons (flowItems handles false n)
    match ts with
    | ⟨.flowSequenceEnd, _, _⟩ :: r => ⟨[], some r, a⟩
    | ⟨.flowEntry, _, _⟩ :: r => if first then item ts else item r
    | ts => if first then item ts else ⟨[.broken], none, a⟩

/-- The entry of a mapping that is written as an item of a flow sequence. A left-out key takes the
token that stands in its place. -/
def singleEntry (handles : Handles) : Nat → List Token → Anchors → Parsed (Node × Node)
  | 0, _, a => ⟨(.broken, .broken), none, a⟩
  | n + 1, ts, a =>
    let key : Parsed Node :=
      match ts with
      | [] => .broken a
      | t :: r =>
        if isNext [.value, .flowEntry, .flowSequenceEnd] ts then omitted t.stop r a
        else node handles false false n ts a
    key.pair fun ts a => flowValue handles .flowSequenceEnd n ts a

/-- The value of an entry inside a flow collection that `close` ends. -/
def flowValue (handles : Handles) (close : Kind) : Nat → List Token → Anchors → Parsed Node
  | 0, _, a => .broken a
  | n + 1, ts, a =>
    match ts with
    | [] => .broken a
    | ⟨.value, _, _⟩ :: r => optional (startOf r) [.flowEntry, close] (node handles false false n) r a
    | ts => omitted (startOf ts) ts a

/-- The entries of a flow mapping up to its closing brace. -/
def flowEntries (handles : Handles) (first : Bool) :
    Nat → List Token → Anchors → Parsed (List (Node × Node))
  | 0, _, a => ⟨[(.broken, .broken)], none, a⟩
  | n + 1, ts, a =>
    let entry (ts : List Token) : Parsed (List (Node × Node)) :=
      match ts with
      | [] => ⟨[(.broken, .broken)], none, a⟩
      | ⟨.flowMappingEnd, _, _⟩ :: r => ⟨[], some r, a⟩
      | ⟨.key, _, _⟩ :: r =>
        ((optional (startOf r) [.value, .flowEntry, .flowMappingEnd] (node handles false false n) r a).pair
          (flowValue handles .flowMappingEnd n)).cons (flowEntries handles false n)
      | ts =>
        ((node handles false false n ts a).pair fun ts a =>
          if ts.isEmpty then .broken a else omitted (startOf ts) ts a).cons (flowEntries handles false n)
    match ts with
    | ⟨.flowMappingEnd, _, _⟩ :: r => ⟨[], some r, a⟩
    | ⟨.flowEntry, _, _⟩ :: r => if first then entry ts else entry r
    | ts => if first then entry ts else ⟨[(.broken, .broken)], none, a⟩

end

/-- A node at the level of the document. Every call passes a token or opens a collection, so twice
the number of tokens bounds their depth. -/
def root (handles : Handles) (ts : List Token) : Parsed Node :=
  node handles true false (2 * ts.length + 2) ts []

end Grammar

end DatasetLint.Yaml
