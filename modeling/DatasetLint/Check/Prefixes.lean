import DatasetLint.Check
import DatasetLint.Dataset

/-!
# Agreed prefixes

Rules say which prefix stands for which namespace. In a Turtle file every line that declares a prefix
is held against all rules: one with the prefix must have its namespace, and one with the namespace its
prefix.
-/

namespace DatasetLint.Check

namespace Prefixes

open Binding

/-- A prefix and the namespace that it stands for. -/
structure Rule where
  name : String
  url : String
  /-- How serious a breach is; without it the rules' common severity counts. -/
  severity : Option Severity
deriving DecidableEq, Repr

structure Settings where
  severity : Severity
  rules : List Rule
deriving DecidableEq, Repr

namespace Rule

def default : Rule := ⟨"", "", none⟩

def record : Record Rule :=
  .mk default
    (.cons "name" (.scalar .text) (fun a r => { r with name := a }) <|
     .cons "url" (.scalar .text) (fun a r => { r with url := a }) <|
     .cons "severity" (.scalar (.optional .severity)) (fun a r => { r with severity := a }) .nil) id

end Rule

namespace Settings

def default : Settings := ⟨.warning, []⟩

/-- Rules without a severity take the common one. -/
def inherit (s : Settings) : Settings :=
  { s with rules := s.rules.map fun r => { r with severity := some (r.severity.getD s.severity) } }

def record : Record Settings :=
  .mk default
    (.cons "severity" (.scalar .severity) (fun a s => { s with severity := a }) <|
     .cons "prefixes" (.records Rule.record) (fun a s => { s with rules := a }) .nil) inherit

end Settings

/-! ## Declarations -/

/-- A prefix and what a line declares it to stand for. -/
structure Declaration where
  name : List Char
  url : List Char
deriving DecidableEq, Repr

/-- The characters of prefixes. -/
def isNameChar (c : Char) : Bool := c.isAlphanum || c == '_' || c == '.' || c == '-'

/-- What follows the word that begins a declaration: `@prefix`, or `prefix` in any letter case. -/
def afterKeyword (line : List Char) : Option (List Char) :=
  let withAt := "@prefix".toList
  let word := "prefix".toList
  if withAt.isPrefixOf line then some (line.drop withAt.length)
  else if line.take word.length |>.map Text.lowerAscii |> (· == word) then some (line.drop word.length)
  else none

/-- The declaration that a line begins with: the word, blanks, a prefix, a colon and a namespace in
angle brackets, with blanks before and between them. -/
def declaration? (line : List Char) : Option Declaration :=
  match afterKeyword (line.dropWhile Text.isBlank) with
  | none => none
  | some r =>
    let afterBlanks := r.dropWhile Text.isBlank
    if afterBlanks.length = r.length then none
    else
      let name := afterBlanks.takeWhile isNameChar
      match afterBlanks.drop name.length with
      | ':' :: r =>
        match r.dropWhile Text.isBlank with
        | '<' :: r =>
          let url := r.takeWhile (· != '>')
          if url.length < r.length then some ⟨name, url⟩ else none
        | _ => none
      | _ => none

/-- The lines of a text; a carriage return before a line end belongs to it. -/
def lines (text : List Char) : List (List Char) :=
  let ps := Text.pieces (· == '\n') text
  let ended := ps.dropLast.map fun l => if l.getLast? == some '\r' then l.dropLast else l
  ended ++ (ps.getLast?.toList.filter (!·.isEmpty))

/-- What a declaration in a line breaks of a rule. -/
def breach? (number : Nat) (d : Declaration) (r : Rule) : Option String :=
  let name := String.ofList d.name
  let url := String.ofList d.url
  let line := "line " ++ toString number ++ ": "
  if r.name = name ∧ r.url ≠ url then
    some (line ++ "prefix " ++ name ++ ": should be <" ++ r.url ++ ">, found <" ++ url ++ ">")
  else if r.url = url ∧ r.name ≠ name then
    some (line ++ "<" ++ url ++ "> should use prefix " ++ r.name ++ ":, found " ++ name ++ ":")
  else none

/-- The problems of a line. -/
def lineProblems (s : Settings) (number : Nat) (line : List Char) : List Problem :=
  match declaration? line with
  | none => []
  | some d => s.rules.filterMap fun r => (breach? number d r).map (⟨r.severity.getD s.severity, ·⟩)

/-- The problems of lines, numbered from `number` on. -/
def linesProblems (s : Settings) (number : Nat) : List (List Char) → List Problem
  | [] => []
  | l :: ls => lineProblems s number l ++ linesProblems s (number + 1) ls

/-- The problems of a text. -/
def textProblems (s : Settings) (text : List Char) : List Problem := linesProblems s 1 (lines text)

/-- What is found in files, up to the first that cannot be read as text. -/
def findIn (x : Context) (s : Settings) : List String → Except Failure (List Finding)
  | [] => .ok []
  | p :: ps =>
    match x.files.readText p with
    | .error e => .error (.failed [e.message])
    | .ok t =>
      (findIn x s ps).map fun fs => (textProblems s t.toList).map (⟨Files.Path.nameBelow x.target p, ·⟩) ++ fs

/-- Without rules no file is looked at. -/
def find (x : Context) (s : Settings) : Except Failure (List Finding) :=
  if s.rules.isEmpty then .ok []
  else
    match Dataset.files x.files x.target ["ttl"] with
    | .error e => .error (.failed [e.message])
    | .ok ps => findIn x s ps

end Prefixes

/-- The check of prefixes. -/
def prefixes : Check :=
  ⟨"prefix", Prefixes.Settings, Prefixes.Settings.record, Prefixes.Settings.default, Prefixes.find⟩

end DatasetLint.Check
