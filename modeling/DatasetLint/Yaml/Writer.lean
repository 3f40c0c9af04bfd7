import DatasetLint.Yaml.Value
import DatasetLint.Yaml.Writer.Scalar

/-!
# Writing values

Collections are written as blocks, one entry a line, and empty ones as brackets. A sequence that is the
value of a key stands at the key's column; any other collection is two columns deeper. A key that is
no short scalar on one line is written behind a question mark.
-/

namespace DatasetLint.Yaml.Writer

/-- What comes before a node on its line. -/
inductive Lead where
  /-- The node begins the text. -/
  | start
  /-- An indicator behind which a collection may begin. -/
  | indicator
  /-- A key on one line, behind which a collection begins on a new line. -/
  | key
deriving DecidableEq, Repr

/-- Where a node stands. -/
structure Position where
  lead : Lead
  /-- The column of the enclosing collection. -/
  outer : Option Nat
  /-- Whether it is a key or value of a mapping. -/
  inMapping : Bool

namespace Position

/-- The column of a collection here, and whether it begins on a new line. A tag in front of it makes
it do so, and then a sequence in a mapping is no deeper than the mapping. -/
def collection (p : Position) (tagged sequence : Bool) : Nat × Bool :=
  let newLine := tagged || p.lead = .key
  let column := match p.outer with
    | none => 0
    | some k => if sequence && p.inMapping && newLine then k else k + indentStep
  (column, newLine)

/-- The column of the continuation lines of a scalar here. -/
def scalar (p : Position) : Nat := p.outer.elim indentStep (· + indentStep)

/-- What separates a node from what comes before it on the line. -/
def gap (p : Position) : List Char := if p.lead = .start then [] else [' ']

end Position

/-- A line end, unless the text has just ended a line. -/
def lineEnd (before : List Char) : List Char := if before.getLast?.any endsLine then [] else ['\n']

/-- Entries at a column, each on a line of its own. -/
def joinEntries (column : Nat) : List (List Char) → List Char
  | [] => []
  | [e] => e
  | e :: es => e ++ lineEnd e ++ spaces column ++ joinEntries column es

/-- The entries of a collection, behind what comes before it on the line. -/
def placeEntries (p : Position) (tagged : Bool) (column : Nat) (newLine : Bool) (es : List (List Char)) :
    List Char :=
  (if newLine then '\n' :: spaces column else if tagged then [] else p.gap) ++ joinEntries column es

/-- The characters of a tag that are not escaped. -/
def isTagText (c : Char) : Bool :=
  c.isAlphanum || "-_;/?:@&=+$,.~*'()[]!".toList.contains c

/-- The text of a tag behind its exclamation mark. -/
def tagText (t : String) : List Char :=
  t.toList.flatMap fun c =>
    if isTagText c then [c]
    else (String.singleton c).toUTF8.toList.flatMap fun b => '%' :: hexDigits 2 b.toNat

/-- The longest key on one line, in bytes. -/
def simpleKeyLimit : Nat := 128

/-- Whether a key is written on one line: a scalar without line ends or an empty collection. -/
def isSimpleKey : Value → Bool
  | .scalar s =>
    match s with
    | .string t => !t.toList.any endsLine && t.utf8ByteSize ≤ simpleKeyLimit
    | s => s.text.utf8ByteSize ≤ simpleKeyLimit
  | .sequence items => items.isEmpty
  | .mapping entries => entries.isEmpty
  | .tagged t (.scalar s) =>
    !s.text.toList.any endsLine && (tagText t).length + 1 + s.text.utf8ByteSize ≤ simpleKeyLimit
  | .tagged t (.sequence items) => items.isEmpty && (tagText t).length + 1 ≤ simpleKeyLimit
  | .tagged t (.mapping entries) => entries.isEmpty && (tagText t).length + 1 ≤ simpleKeyLimit
  | .tagged _ (.tagged ..) => false

/-- A scalar where it stands. -/
def scalarAt (p : Position) (asKey : Bool) : Scalar → List Char
  | .string t =>
    let cs := t.toList
    scalarText p.scalar (chosen asKey (wanted t) cs) cs
  | s => s.text.toList

mutual

/-- A value where it stands, with the space that separates it from what comes before. `tagged` tells
that a tag does. -/
def valueAt (p : Position) (asKey tagged : Bool) : Value → List Char
  | .scalar s => (if tagged then [' '] else p.gap) ++ scalarAt p asKey s
  | .sequence [] => (if tagged then [' '] else p.gap) ++ ['[', ']']
  | .sequence items@(_ :: _) =>
    let (column, newLine) := p.collection tagged true
    placeEntries p tagged column newLine (itemsAt column items)
  | .mapping [] => (if tagged then [' '] else p.gap) ++ ['\x7b', '\x7d']
  | .mapping entries@(_ :: _) =>
    let (column, newLine) := p.collection tagged false
    placeEntries p tagged column newLine (entriesAt column entries)
  | .tagged t v => p.gap ++ '!' :: tagText t ++ valueAt p asKey true v

/-- The items of a sequence at a column. -/
def itemsAt (column : Nat) : List Value → List (List Char)
  | [] => []
  | v :: vs => ('-' :: valueAt ⟨.indicator, some column, false⟩ false false v) :: itemsAt column vs

/-- The entries of a mapping at a column. -/
def entriesAt (column : Nat) : List (Value × Value) → List (List Char)
  | [] => []
  | (k, v) :: es =>
    let entry :=
      if isSimpleKey k then
        valueAt ⟨.start, some column, true⟩ true false k ++
          ':' :: valueAt ⟨.key, some column, true⟩ false false v
      else
        let key := '?' :: valueAt ⟨.indicator, some column, true⟩ false false k
        key ++ lineEnd key ++ spaces column ++
          ':' :: valueAt ⟨.indicator, some column, true⟩ false false v
    entry :: entriesAt column es

end

/-- A value as a document of its own. -/
def document (v : Value) : List Char :=
  let t := valueAt ⟨.start, none, false⟩ false false v
  t ++ lineEnd t

end DatasetLint.Yaml.Writer

namespace DatasetLint.Yaml

/-- The text of a document that holds a value. -/
def Value.render (v : Value) : String := String.ofList (Writer.document v)

end DatasetLint.Yaml
