import DatasetLint.Yaml.Document
import DatasetLint.Yaml.Error

/-!
# Reading a document into a type

A `Reader` takes a node to a value of a type or to the first fault in document order. Readers are
combined like the types they read: texts, options, lists, maps and records with named fields. Collections nest
at most 128 deep, and all aliases together lead to at most a hundred times as many nodes as there
are.
-/

namespace DatasetLint.Yaml

/-- What aliases refer to, and how many of them may be followed. -/
structure References where
  anchored : List (Nat × Node)
  limit : Nat

/-- A computation that follows aliases and may fail; the state counts the aliases followed. -/
abbrev Read := ReaderT References (StateT Nat (Except Error))

/-- A way to read a node: given how deep collections may still nest, and the path to the node. -/
abbrev Reader (α : Type) := Nat → Path → Node → Read α

/-- How deep collections may nest. -/
def depthLimit : Nat := 128

/-- The aliases that may be followed per event of a document. -/
def aliasFactor : Nat := 100

namespace Read

/-- Faults inside get this place, unless they have one. -/
def located {α : Type} (p : Place) (x : Read α) : Read α := fun refs n =>
  match x refs n with
  | .ok r => .ok r
  | .error e => .error (e.locate p)

def fault {α : Type} (f : Fault) : Read α := throw (.shape f none)

end Read

open Read

namespace Node

/-- The error behind which nothing can be read. -/
def stopError : Node → Error
  | reference m _ => .unknownAnchor m
  | _ => .malformed

/-- The node itself, or the one that an alias refers to. -/
def follow (x : Node) : Read Node := do
  match x with
  | reference m (some id) =>
    let refs ← read
    let n ← getModify (· + 1)
    if refs.limit ≤ n then throw .tooManyAliases
    match (refs.anchored.filter (·.1 == id)).getLast? with
    | some (_, y) => pure y
    | none => throw (.unknownAnchor m)
  | x => if x.isStop then throw x.stopError else pure x

/-- The name behind an exclamation mark. -/
def ownTag? (tag : Option String) : Option String :=
  tag.bind fun t =>
    match t.toList with
    | '!' :: r => some (String.ofList r)
    | _ => none

def coreTag (name : String) : String := "tag:yaml.org,2002:" ++ name

/-- The meaning of a scalar under its tag. -/
def scalarMeaning (tag : Option String) (text : String) (style : Style) : Except Fault Scalar :=
  let untagged : Scalar := if style = .plain then .ofPlain text else .string text
  let orElse (v : Option Scalar) (expected : String) : Except Fault Scalar :=
    match v with
    | some v => .ok v
    | none => .error (.invalidValue (.string text) expected)
  match tag with
  | none => .ok untagged
  | some t =>
    if t = coreTag "bool" then orElse ((Scalar.readBool? text).map .bool) "a boolean"
    else if t = coreTag "int" then orElse ((Scalar.readInt? text).map .int) "an integer"
    else if t = coreTag "float" then orElse ((Scalar.readFloat? text).map .float) "a float"
    else if t = coreTag "null" then orElse (if Scalar.isNullWord text then some .null else none) "null"
    else if (ownTag? tag).isSome then .ok untagged
    else .ok (.string text)

/-- What a node is, for messages. -/
def found : Node → Except Fault Found
  | scalar _ _ tag text style => (scalarMeaning tag text style).map .ofScalar
  | sequence .. => .ok .sequence
  | mapping .. => .ok .mapping
  | _ => .ok .unit

/-- The node has not the type that was expected. -/
def mismatch {α : Type} (x : Node) (expected : String) : Read α :=
  match x.found with
  | .ok f => fault (.invalidType f expected)
  | .error f => fault f

/-- A plain scalar without any character: nothing was written. -/
def isOmitted : Node → Bool
  | scalar _ _ _ text .plain => text.isEmpty
  | _ => false

/-- The text of a scalar that stands as a key. -/
def keyText? : Node → Option String
  | scalar _ _ _ text _ => some text
  | _ => none

/-- A node is passed over; what is broken in it still counts. -/
def ignore (x : Node) : Read Unit :=
  match x.firstStop with
  | some y => throw y.stopError
  | none => pure ()

end Node

/-- The path to the value of a key. -/
def Path.value (p : Path) (key : Node) : Path :=
  match key.keyText? with
  | some k => .entry p k
  | none => .unnamed p

namespace Reader

/-- The items of a sequence from number `i` on. -/
def items {α : Type} (item : Nat → Node → Read α) : Nat → List Node → Read (List α)
  | _, [] => pure []
  | i, x :: xs => do
    let a ← item i x
    let as ← items item (i + 1) xs
    pure (a :: as)

/-- The text of a scalar as it stands, whatever its meaning, if `check` finds no fault in it. -/
def checkedText (expected : String) (check : String → Option Fault) : Reader String := fun _ path x => do
  let x ← x.follow
  located ⟨x.mark, path⟩ do
    match x with
    | .scalar _ _ _ t _ =>
      match check t with
      | some f => fault f
      | none => pure t
    | x => x.mismatch expected

/-- The text of a scalar as it stands, whatever its meaning. -/
def text (expected : String) : Reader String := checkedText expected fun _ => none

/-- Whether a scalar is a null; the tag for null admits nothing else. -/
def isNull (x : Node) : Read Bool :=
  match x with
  | .scalar _ _ tag t .plain =>
    if tag = some (Node.coreTag "null") then
      if Scalar.isNullWord t then pure true else fault (.invalidValue (.string t) "null")
    else pure (tag.isNone && (t.isEmpty || Scalar.isNullWord t))
  | _ => pure false

/-- Null is nothing; anything else is read. -/
def option {α : Type} (r : Reader α) : Reader (Option α) := fun d path x => do
  let x ← x.follow
  if ← isNull x then pure none else some <$> r d path x

/-- A sequence, or nothing at all. -/
def list {α : Type} (r : Reader α) : Reader (List α) := fun d path x => do
  let x ← x.follow
  located ⟨x.mark, path⟩ do
    match x, d with
    | .sequence m _ _ _, 0 => throw (.tooDeep m)
    | .sequence _ _ _ xs, d + 1 => items (fun i y => r d (.item path i) y) 0 xs
    | x, _ => if x.isOmitted then pure [] else x.mismatch "a sequence"

/-- The entries of a mapping, or none if nothing is there, under the name `expected`. -/
def entriesOf (expected : String) (d : Nat) (x : Node) : Read (Nat × List (Node × Node)) :=
  match x, d with
  | .mapping m _ _ _, 0 => throw (.tooDeep m)
  | .mapping _ _ _ es, d + 1 => pure (d, es)
  | x, d => if x.isOmitted then pure (d, []) else x.mismatch expected

/-- A mapping from texts; of entries with one key each is kept, in order. -/
def map {α : Type} (r : Reader α) : Reader (List (String × α)) := fun d path x => do
  let x ← x.follow
  located ⟨x.mark, path⟩ do
    let (d, es) ← entriesOf "a map" d x
    es.mapM fun (k, v) => do
      let key ← text "a string" d path k
      let a ← r d (path.value k) v
      pure (key, a)

/-- A field of a record: its key, whether it must be present, and how its value changes the record. -/
structure Field (σ : Type) where
  name : String
  required : Bool
  assign : σ → Reader σ

namespace Field

/-- A field that a reader fills. -/
def ofReader {σ α : Type} (name : String) (required : Bool) (r : Reader α) (set : α → σ → σ) : Field σ :=
  ⟨name, required, fun s d path x => (set · s) <$> r d path x⟩

end Field

/-- The key of a field; where all keys must be known, another one is a fault. -/
def fieldKey {σ : Type} (strict : Bool) (known : List (Field σ)) : Reader String :=
  checkedText "field identifier" fun key =>
    if strict && !known.any (·.name == key) then some (.unknownField key (known.map (·.name))) else none

/-- The entries of a record from the first on: each key at most once, and a key without field is a
fault or passed over. The result has the names of the fields met. -/
def fields {σ : Type} (strict : Bool) (known : List (Field σ)) (d : Nat) (path : Path) :
    List String → σ → List (Node × Node) → Read (σ × List String)
  | seen, s, [] => pure (s, seen)
  | seen, s, (k, v) :: es => do
    let key ← fieldKey strict known d path k
    match known.find? (·.name == key) with
    | none =>
      v.ignore
      fields strict known d path seen s es
    | some f =>
      if seen.contains key then fault (.duplicateField key)
      let s ← f.assign s d (path.value k) v
      fields strict known d path (key :: seen) s es

/-- A mapping with named fields, or none of them if nothing is there. -/
def record {σ : Type} (name : String) (strict : Bool) (known : List (Field σ)) (start : σ) : Reader σ :=
  fun d path x => do
    let x ← x.follow
    located ⟨x.mark, path⟩ do
      let (d, es) ← entriesOf ("struct " ++ name) d x
      let (s, seen) ← fields strict known d path [] start es
      match known.find? fun f => f.required && !seen.contains f.name with
      | some f => fault (.missingField f.name)
      | none => pure s

/-- One of some words, written as a scalar or as a tag of nothing. -/
def word {α : Type} (variants : List (String × α)) : Reader α := fun _ path x => do
  let x ← x.follow
  let pick (s : String) : Read α :=
    match variants.lookup s with
    | some a => pure a
    | none => fault (.unknownVariant s (variants.map (·.1)))
  let tagged (tag : Option String) (otherwise : Read α) : Read α :=
    match Node.ownTag? tag with
    | none => otherwise
    | some t => do
      let a ← pick t
      located ⟨x.mark, path⟩ (unit x)
      pure a
  match x with
  | .scalar m _ tag t _ => tagged tag (located ⟨m, path⟩ (pick t))
  | .sequence m _ tag _ =>
    tagged tag (located ⟨m, path⟩ (fault (.invalidType .sequence "a YAML tag starting with '!'")))
  | .mapping m _ tag _ =>
    tagged tag (located ⟨m, path⟩ (fault (.invalidType .mapping "a YAML tag starting with '!'")))
  | _ => throw .malformed
where
  /-- The content of a tag that stands for itself. -/
  unit : Node → Read Unit
    | .scalar _ _ _ t .plain =>
      if t.isEmpty || Scalar.isNullWord t then pure () else fault (.invalidValue (.string t) "null")
    | .scalar _ _ _ t _ => fault (.invalidValue (.string t) "null")
    | x => x.mismatch "unit"

/-! ## Values without regard to a type -/

/-- A scalar of a value; integers of more than 64 bits have no place in it. -/
def scalarValue (tag : Option String) (t : String) (style : Style) : Read Value :=
  match Node.scalarMeaning tag t style with
  | .error f => fault f
  | .ok (.int i) =>
    if Scalar.isWordSized i then pure (.scalar (.int i)) else fault (.invalidType (.int i) "any YAML value")
  | .ok s => pure (.scalar s)

/-- The scalar of a key, for messages. -/
def keyScalar : Value → Option Scalar
  | .scalar s => some s
  | _ => none

/-- The entries of a mapping whose keys are values, no two of them the same. -/
def valueEntries (value : Path → Node → Read Value) (path : Path) :
    List (Value × Value) → List (Node × Node) → Read (List (Value × Value))
  | seen, [] => pure seen.reverse
  | seen, (k, v) :: es => do
    let key ← value path k
    if seen.any fun e => e.1.same key then fault (.duplicateEntry (keyScalar key))
    let a ← value (path.value k) v
    valueEntries value path ((key, a) :: seen) es

/-- A tag of one's own stays with the value; it must have a name. -/
def wrap (tag : Option String) (v : Read Value) : Read Value :=
  match Node.ownTag? tag with
  | none => v
  | some t => if t = "" then fault .emptyTag else .tagged t <$> v

/-- A node that is no alias, as a value; the nodes below it are read by `below`, or may not be there. -/
def content (below : Option (Path → Node → Read Value)) (path : Path) : Node → Read Value
  | .scalar _ _ tag t style => wrap tag (scalarValue (if (Node.ownTag? tag).isSome then none else tag) t style)
  | .sequence m _ tag xs =>
    wrap tag <|
      match below with
      | none => throw (.tooDeep m)
      | some value => .sequence <$> items (fun i y => value (.item path i) y) 0 xs
  | .mapping m _ tag es =>
    wrap tag <|
      match below with
      | none => throw (.tooDeep m)
      | some value => .mapping <$> valueEntries value path [] es
  | _ => throw .malformed

/-- Any node as a value. -/
def value : Reader Value
  | 0, path, x => do
    let x ← x.follow
    located ⟨x.mark, path⟩ (content none path x)
  | d + 1, path, x => do
    let x ← x.follow
    located ⟨x.mark, path⟩ (content (some (value d)) path x)

end Reader

namespace Document

/-- A document as a value of a type. -/
def read {α : Type} (r : Reader α) (doc : Document) : Except Error α :=
  let root := doc.root.getD (.empty .start)
  let refs : References := ⟨root.anchored, aliasFactor * root.events.1⟩
  match r depthLimit .root root refs 0 with
  | .error e => .error e
  | .ok (a, _) =>
    if !doc.complete then .error .malformed
    else if doc.more then .error .manyDocuments
    else .ok a

end Document

/-- A text that holds one document, as a value of a type. -/
def readText {α : Type} (r : Reader α) (s : String) : Except Error α := (Document.ofText s).read r

end DatasetLint.Yaml
