import DatasetLint.Yaml.Node.Grammar
import DatasetLint.Yaml.Token.Stream

/-!
# Documents

The first document of a text, and what follows it. Only a text that holds nothing but one document
can be read as a value; the reading of the document comes first, though, so its faults are
reported before a second document or an ill-formed rest.
-/

namespace DatasetLint.Yaml

/-- The first document of a text. -/
structure Document where
  /-- The node of the document; a text without any has none. -/
  root : Option Node
  /-- Whether the text is well-formed up to the end of the document. -/
  complete : Bool
  /-- Whether anything follows the document. -/
  more : Bool
deriving Repr

namespace Document

open Grammar

/-- A text that is ill-formed before its first document. -/
def broken : Document := ⟨some .broken, false, false⟩

/-- Whether a version of YAML can be read. -/
def isKnownVersion (major minor : Nat) : Bool := major == 1 && (minor == 1 || minor == 2)

/-- The directives at the head, at most one version and each handle at most once. -/
def directives (version : Bool) (handles : Handles) : List Token → Option (Handles × List Token)
  | ⟨.versionDirective major minor, _, _⟩ :: r =>
    if version || !isKnownVersion major minor then none else directives true handles r
  | ⟨.tagDirective h lead, _, _⟩ :: r =>
    if (handles.lookup h).isSome then none else directives version (handles ++ [(h, lead)]) r
  | ts => some (handles ++ Handles.standard, ts)

/-- The tokens behind the end markers at the head. -/
def skipEnds (ts : List Token) : List Token := ts.dropWhile (·.kind == .documentEnd)

/-- Whether anything but the end of the text follows a document. -/
def hasMore (ts : List Token) : Bool :=
  match skipEnds ts with
  | ⟨.streamEnd, _, _⟩ :: _ => false
  | _ => true

/-- A document whose node was read. -/
def ofRoot (p : Parsed Node) : Document :=
  match p.rest with
  | none => ⟨some p.value, false, false⟩
  | some [] => ⟨some p.value, false, false⟩
  | some ts => ⟨some p.value, true, hasMore ts⟩

/-- Whether a token at the head leaves a document that was begun without a node. -/
def isEmptyBody : List Token → Bool
  | ⟨.versionDirective .., _, _⟩ :: _ => true
  | ⟨.tagDirective .., _, _⟩ :: _ => true
  | ts => isNext [.documentStart, .documentEnd, .streamEnd] ts

/-- Whether a document begins with directives or a marker. -/
def isExplicit : List Token → Bool
  | ⟨.versionDirective .., _, _⟩ :: _ => true
  | ⟨.tagDirective .., _, _⟩ :: _ => true
  | ts => isNext [.documentStart] ts

/-- The first document of some tokens. -/
def ofTokens (ts : List Token) : Document :=
  if ts.isEmpty then broken
  else if isNext [.streamEnd] ts then ⟨none, true, false⟩
  else if !isExplicit ts then ofRoot (Grammar.root .standard ts)
  else
    match directives false [] ts with
    | some (handles, ⟨.documentStart, _, _⟩ :: r) =>
      if r.isEmpty then broken
      else if isEmptyBody r then ofRoot (omitted (startOf r) r [])
      else ofRoot (Grammar.root handles r)
    | _ => broken

/-- The first document of a text. -/
def ofText (s : String) : Document := ofTokens (TokenStream.ofText s).tokens

end Document

end DatasetLint.Yaml
