import DatasetLint.Files.System
import DatasetLint.Pattern
import DatasetLint.ProblemTable
import DatasetLint.RunError
import DatasetLint.Text.Blank
import DatasetLint.Yaml.Reader

/-!
# Known problems

A list of problems that a report leaves out. Each entry is about one resource and names a part of
the messages or a pattern in them.
-/

namespace DatasetLint

open Yaml

namespace Text

/-- Whether a text occurs in another one. -/
def occursIn (part : List Char) : List Char → Bool
  | [] => part.isEmpty
  | c :: cs => part.isPrefixOf (c :: cs) || occursIn part cs

end Text

/-- Which messages an entry is about. -/
inductive MessageTest where
  /-- Messages that contain a text. -/
  | contains (text : String)
  | pattern (p : Pattern)

def MessageTest.holds : MessageTest → String → Bool
  | contains t, m => Text.occursIn t.toList m.toList
  | pattern p, m => p.isMatch m

/-- The known problems of a resource whose messages pass a test. -/
structure Suppression where
  resource : String
  test : MessageTest

namespace Suppression

def suppresses (e : Suppression) (resource message : String) : Bool :=
  e.resource == resource && e.test.holds message

/-- The problems that no entry suppresses. -/
def apply (es : List Suppression) (s : ProblemTable) : ProblemTable :=
  s.filter fun resource p => !es.any (·.suppresses resource p.message)

/-! ## Files of known problems -/

/-- An entry as it is written. -/
structure Raw where
  file : String
  message : Option String
  pattern : Option String

/-- An entry has either a message or a pattern. -/
def ofRaw (r : Raw) : Except String Suppression :=
  match r.message, r.pattern with
  | some m, none => .ok ⟨r.file, .contains m⟩
  | none, some p =>
    match Pattern.ofText p with
    | .ok p => .ok ⟨r.file, .pattern p⟩
    | .error e => .error ("invalid pattern for " ++ r.file ++ ": " ++ e.message)
  | some _, some _ => .error (r.file ++ ": use either \x60message\x60 or \x60pattern\x60, not both")
  | none, none => .error (r.file ++ ": \x60message\x60 or \x60pattern\x60 is required")

def reader : Reader Suppression := fun d path x => do
  let raw ← Reader.record "RawSuppression" true [
    .ofReader "file" true (.text "a string") fun a r => { r with file := a },
    .ofReader "message" false (.option (.text "a string")) fun a r => { r with message := a },
    .ofReader "pattern" false (.option (.text "a string")) fun a r => { r with pattern := a }]
    (⟨"", none, none⟩ : Raw) d path x
  match ofRaw raw with
  | .ok e => pure e
  | .error reason => Read.fault (.refused reason)

/-- The entries in a text; a blank text has none. -/
def ofText (s : String) : Except Yaml.Error (List Suppression) :=
  if (Text.trim s.toList).isEmpty then .ok [] else readText (.list reader) s

/-- The entries in a file. -/
def load (s : Files.FileSystem) (path : String) : Except RunError (List Suppression) :=
  match s.readText path with
  | .error e => .error (.suppressions path e.message)
  | .ok text => (ofText text).mapError fun e => .suppressions path e.message

end Suppression

end DatasetLint
