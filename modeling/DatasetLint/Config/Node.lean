import DatasetLint.Text.Blank
import DatasetLint.Yaml.Reader
import DatasetLint.Yaml.Writer

/-!
# Configuration nodes

A configuration section as its author wrote it: texts, sequences and mappings in order, without types and
tags. A key that is no text takes the form in which it would be written.
-/

namespace DatasetLint.Config

open Yaml

/-- An untyped piece of a configuration. -/
inductive Node where
  | null
  | scalar (text : String)
  | mapping (entries : List (String × Node))
  | sequence (items : List Node)
deriving Repr, Inhabited

namespace Node

/-- The value of the first entry with a key. -/
def get? : Node → String → Option Node
  | mapping entries, key => entries.lookup key
  | _, _ => none

def scalar? : Node → Option String
  | scalar t => some t
  | _ => none

def entries? : Node → Option (List (String × Node))
  | mapping entries => some entries
  | _ => none

def items? : Node → Option (List Node)
  | sequence items => some items
  | _ => none

def isNull : Node → Bool
  | null => true
  | _ => false

/-- The kind of a node, for messages. -/
def kind : Node → String
  | null => "null"
  | scalar _ => "scalar"
  | mapping _ => "mapping"
  | sequence _ => "sequence"

/-- A key as a text: null is a tilde, and a collection takes its written form. -/
def shownKey : Value → String
  | .scalar .null => "~"
  | .scalar s => s.text
  | v => String.ofList (Text.trimEnd v.render.toList)

mutual

/-- A value without its types and tags. -/
def ofValue : Value → Node
  | .scalar .null => null
  | .scalar s => scalar s.text
  | .sequence items => sequence (ofValues items)
  | .mapping entries => mapping (ofEntries entries)
  | .tagged _ v => ofValue v

def ofValues : List Value → List Node
  | [] => []
  | v :: vs => ofValue v :: ofValues vs

def ofEntries : List (Value × Value) → List (String × Node)
  | [] => []
  | (k, v) :: es => (shownKey k, ofValue v) :: ofEntries es

end

/-- A node of a document. -/
def reader : Reader Node := fun d path x => ofValue <$> Reader.value d path x

/-- A document as a node. -/
def ofText (s : String) : Except Error Node := readText reader s

end Node

end DatasetLint.Config
