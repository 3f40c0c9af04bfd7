import DatasetLint.Text.Pieces
import DatasetLint.Text.Utf8

/-!
# File URIs

A path as a URI of the scheme `file`, and back. Backslashes separate the parts of a path as slashes do,
and a path that starts with a drive gets its backslashes back.
-/

namespace DatasetLint.Files.Uri

open Text

/-- The scheme and the empty authority of a file. -/
def scheme : String := "file://"

/-- The characters that stand for themselves in a URI. -/
def isUnreserved (c : Char) : Bool :=
  c.isAlphanum || c == '-' || c == '_' || c == '.' || c == '~'

/-- A hexadecimal digit, a capital letter above nine. -/
def hexDigit (n : Nat) : Char := if n < 10 then Char.ofNat (48 + n) else Char.ofNat (55 + n)

/-- An octet as a percent sign and two digits. -/
def escape (b : UInt8) : List Char := ['%', hexDigit (b.toNat / 16), hexDigit (b.toNat % 16)]

/-- A part of a path in which only unreserved characters are left. -/
def encode (cs : List Char) : List Char :=
  cs.flatMap fun c => if isUnreserved c then [c] else (Utf8.encode c).flatMap escape

/-- The value of a hexadecimal digit. -/
def hexValue? (c : Char) : Option Nat :=
  if '0' ≤ c ∧ c ≤ '9' then some (c.toNat - 48)
  else if 'A' ≤ c ∧ c ≤ 'F' then some (c.toNat - 55)
  else if 'a' ≤ c ∧ c ≤ 'f' then some (c.toNat - 87)
  else none

/-- The octet that two hexadecimal digits stand for. -/
def octet? (a b : Char) : Option UInt8 :=
  match hexValue? a, hexValue? b with
  | some x, some y => some (UInt8.ofNat (16 * x + y))
  | _, _ => none

/-- The octets of an encoded part; a percent sign without two digits stands for itself. -/
def octets : List Char → List UInt8
  | '%' :: a :: b :: cs =>
    match octet? a b with
    | some x => x :: octets cs
    | none => Utf8.encode '%' ++ octets (a :: b :: cs)
  | c :: cs => Utf8.encode c ++ octets cs
  | [] => []

/-- The text of an encoded part, if its octets are one. -/
def decode? (cs : List Char) : Option (List Char) :=
  (Utf8.decode ⟨(octets cs).toArray⟩).map String.toList

/-- The parts of a path. -/
def partsOf (path : List Char) : List (List Char) := pieces (fun c => c == '/' || c == '\\') path

/-- A path as a URI. -/
def ofPath (path : String) : String :=
  let encoded := join ['/'] ((partsOf path.toList).map encode)
  let front := if path.toList.head? = some '/' then [] else ['/']
  String.ofList (scheme.toList ++ front ++ encoded)

/-- A letter and a colon. -/
def isDriveLetter : List Char → Bool
  | [c, ':'] => c.isAlpha
  | _ => false

/-- The path of a URI, unless it has another scheme or holds octets that are no text. -/
def toPath? (uri : String) : Option String :=
  let cs := uri.toList
  if !scheme.toList.isPrefixOf cs then none
  else
    ((pieces (· == '/') (cs.drop scheme.length)).mapM decode?).map fun ps =>
      match ps with
      | [] :: d :: rest =>
        if isDriveLetter d then String.ofList (join ['\\'] (d :: rest)) else String.ofList (join ['/'] ps)
      | ps => String.ofList (join ['/'] ps)

end DatasetLint.Files.Uri
