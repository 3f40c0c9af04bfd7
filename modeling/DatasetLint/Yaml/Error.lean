import DatasetLint.Text.Quoted
import DatasetLint.Yaml.Value

/-!
# Why a document cannot be read

Either the text itself is at fault, or a node has the wrong shape. A fault of shape knows its place: the
node and the path to it. Every cause has one wording.
-/

namespace DatasetLint.Yaml

open Decimal Text

/-- What stands where something else was expected. -/
inductive Found where
  | bool (value : Bool)
  | int (value : Int)
  | float (value : Floating)
  | string (value : String)
  | unit
  | sequence
  | mapping
deriving DecidableEq, Repr

namespace Found

def ofScalar : Scalar → Found
  | .null => .unit
  | .bool b => .bool b
  | .int i => .int i
  | .float v => .float v
  | .string s => .string s

/-- What was found, in words. Integers beyond 64 bits name the type that holds them. -/
def describe : Found → String
  | bool b => "boolean " ++ ticked (if b then "true" else "false")
  | int i =>
    let width := if Scalar.isWordSized i then "" else if i < 0 then " as i128" else " as u128"
    "integer " ++ ticked (integerText i) ++ width
  | float v => "floating point " ++ ticked (Layout.message.render binary64 v)
  | string s => "string " ++ quoted s
  | unit => "unit value"
  | sequence => "sequence"
  | mapping => "map"

end Found

/-- Why a node has the wrong shape. -/
inductive Fault where
  | invalidType (found : Found) (expected : String)
  | invalidValue (found : Found) (expected : String)
  | unknownField (name : String) (known : List String)
  | unknownVariant (name : String) (known : List String)
  | missingField (name : String)
  | duplicateField (name : String)
  /-- A key of a mapping appears twice; a collection as key is not named. -/
  | duplicateEntry (key : Option Scalar)
  | emptyTag
  /-- What was read is refused for a reason of its own. -/
  | refused (reason : String)
deriving DecidableEq, Repr

namespace Fault

/-- The names to choose from. -/
def choices : List String → String
  | [a] => ticked a
  | [a, b] => ticked a ++ " or " ++ ticked b
  | names => "one of " ++ ", ".intercalate (names.map ticked)

/-- The key of a duplicate entry, in words. -/
def keyText : Option Scalar → String
  | none => "in YAML map"
  | some .null => "with null key"
  | some (.bool b) => "with key " ++ ticked (if b then "true" else "false")
  | some (.string s) => "with key " ++ quoted s
  | some s => "with key " ++ s.text

def message : Fault → String
  | invalidType found expected => "invalid type: " ++ found.describe ++ ", expected " ++ expected
  | invalidValue found expected => "invalid value: " ++ found.describe ++ ", expected " ++ expected
  | unknownField name known => "unknown field " ++ ticked name ++ ", expected " ++ choices known
  | unknownVariant name known => "unknown variant " ++ ticked name ++ ", expected " ++ choices known
  | missingField name => "missing field " ++ ticked name
  | duplicateField name => "duplicate field " ++ ticked name
  | duplicateEntry key => "duplicate entry " ++ keyText key
  | emptyTag => "empty YAML tag is not allowed"
  | refused reason => reason

end Fault

/-- The way from the root of a document to a node. -/
inductive Path where
  | root
  | item (parent : Path) (index : Nat)
  | entry (parent : Path) (key : String)
  /-- The value of a key that is no scalar. -/
  | unnamed (parent : Path)
deriving DecidableEq, Repr

namespace Path

/-- A path as it is shown; the root is a point. -/
def render : Path → String
  | root => "."
  | item p i => render p ++ "[" ++ toString i ++ "]"
  | entry root key => key
  | entry p key => render p ++ "." ++ key
  | unnamed root => "?"
  | unnamed p => render p ++ ".?"

end Path

/-- Where a fault is. -/
structure Place where
  mark : Mark
  path : Path
deriving DecidableEq, Repr

inductive Error where
  | malformed
  | unknownAnchor (mark : Mark)
  | tooDeep (mark : Mark)
  | tooManyAliases
  | endOfText
  | manyDocuments
  | shape (fault : Fault) (place : Option Place)
deriving DecidableEq, Repr

namespace Error

/-- A position in words; the first one of a text is not told. -/
def position (m : Mark) : String :=
  if m.line = 0 ∧ m.column = 0 then ""
  else " at line " ++ toString (m.line + 1) ++ " column " ++ toString (m.column + 1)

/-- What is said of an error. Of `malformed` it is only said that the text is no YAML: left out are what is wrong
with it, and where. -/
def message : Error → String
  | malformed => "yaml syntax error"
  | unknownAnchor m => "unknown anchor" ++ position m
  | tooDeep m => "recursion limit exceeded" ++ position m
  | tooManyAliases => "repetition limit exceeded"
  | endOfText => "EOF while parsing a value"
  | manyDocuments => "deserializing from YAML containing more than one document is not supported"
  | shape f none => f.message
  | shape f (some p) =>
    (if p.path = .root then "" else p.path.render ++ ": ") ++ f.message ++ position p.mark

/-- A fault without a place gets one; any other error keeps what it says. -/
def locate (p : Place) : Error → Error
  | shape f none => shape f (some p)
  | e => e

end Error

end DatasetLint.Yaml
