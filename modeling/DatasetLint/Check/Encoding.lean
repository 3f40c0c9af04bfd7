import DatasetLint.Check
import DatasetLint.Dataset

/-!
# Text files without surprises

Every file must be UTF-8, and its lines must be free of carriage returns, of blanks at their ends and of
tabs at their starts. A file that is not empty must end with a line end.
-/

namespace DatasetLint.Check

namespace Encoding

open Binding

structure Settings where
  severity : Severity
  trailingWhitespace : Bool
  finalNewline : Bool
  tabIndent : Bool
  crlf : Bool
  extensions : List String
deriving DecidableEq, Repr

namespace Settings

def default : Settings := ⟨.warning, true, true, true, true, Dataset.extensions⟩

def record : Record Settings :=
  .mk default
    (.cons "severity" (.scalar .severity) (fun a s => { s with severity := a }) <|
     .cons "trailingWhitespace" (.scalar .boolean) (fun a s => { s with trailingWhitespace := a }) <|
     .cons "finalNewline" (.scalar .boolean) (fun a s => { s with finalNewline := a }) <|
     .cons "tabIndent" (.scalar .boolean) (fun a s => { s with tabIndent := a }) <|
     .cons "crlf" (.scalar .boolean) (fun a s => { s with crlf := a }) <|
     .cons "extensions" (.scalars .text) (fun a s => { s with extensions := a }) .nil) id

end Settings

/-- The lines of a text without their line ends; what follows the last line end is a line if it is
not empty. -/
def lines (text : List Char) : List (List Char) :=
  let ps := Text.pieces (· == '\n') text
  if ps.getLast? == some [] then ps.dropLast else ps

/-- The messages about a line. -/
def lineMessages (s : Settings) (number : Nat) (line : List Char) : List String :=
  let returned := line.getLast? == some '\r'
  let body := if returned then line.dropLast else line
  let say (on : Bool) (what : String) : List String :=
    if on then ["line " ++ toString number ++ ": " ++ what] else []
  say (s.crlf && returned) "CRLF line ending" ++
    say (s.trailingWhitespace && body.getLast?.any fun c => c == ' ' || c == '\t') "trailing whitespace" ++
    say (s.tabIndent && body.head? == some '\t') "tab indentation"

/-- The messages about lines, numbered from `number` on. -/
def linesMessages (s : Settings) (number : Nat) : List (List Char) → List String
  | [] => []
  | l :: ls => lineMessages s number l ++ linesMessages s (number + 1) ls

/-- The messages about a text. -/
def textMessages (s : Settings) (text : List Char) : List String :=
  linesMessages s 1 (lines text) ++
    if s.finalNewline && !text.isEmpty && text.getLast? != some '\n' then ["missing final newline"] else []

/-- The problems of a file; that it is no text is always an error. -/
def fileProblems (s : Settings) (content : ByteArray) : List Problem :=
  match Text.Utf8.decode content with
  | some t => (textMessages s t.toList).map (⟨s.severity, ·⟩)
  | none =>
    [⟨.error, "not valid UTF-8 (byte offset " ++ toString (Text.Utf8.validLength content) ++ ")"⟩]

/-- What is found in files, up to the first that cannot be read. -/
def findIn (x : Context) (s : Settings) : List String → Except Failure (List Finding)
  | [] => .ok []
  | p :: ps =>
    match x.files.read p with
    | .error e => .error (.failed [e.message])
    | .ok b =>
      (findIn x s ps).map fun fs => (fileProblems s b).map (⟨Files.Path.nameBelow x.target p, ·⟩) ++ fs

def find (x : Context) (s : Settings) : Except Failure (List Finding) :=
  match Dataset.files x.files x.target s.extensions with
  | .error e => .error (.failed [e.message])
  | .ok ps => findIn x s ps

end Encoding

/-- The check of encoding and blanks. -/
def encoding : Check :=
  ⟨"fileEncoding", Encoding.Settings, Encoding.Settings.record, Encoding.Settings.default, Encoding.find⟩

end DatasetLint.Check
