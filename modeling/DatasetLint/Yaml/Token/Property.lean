import DatasetLint.Yaml.Token.Scalar

/-!
# Anchors, tags and directives

The names that a node or a document carries. A tag is a handle and a suffix; in the suffix a percent
sign and two hexadecimal digits stand for an octet of a UTF-8 sequence.
-/

namespace DatasetLint.Yaml.Token

open Chars

/-- The characters of anchor names and tag handles. -/
def isNameChar (c : Char) : Bool := c.isAlphanum || c == '_' || c == '-'

/-! ## Anchors and aliases -/

/-- A name behind `&` or `*`; only blanks and some indicators may follow it. -/
def nodeName (s : Chars) : Option (String × Chars) :=
  let name := word isNameChar s
  let r := skip isNameChar s
  let closed := atBlank r ||
    startsWith (fun c => c == '?' || c == ':' || c == ',' || c == ']' || c == '}' || c == '%' ||
      c == '@' || c == '`') r
  if name.isEmpty || !closed then none else some (String.ofList name, r)

/-! ## Tags -/

/-- The characters of a tag; a verbatim tag and a directive also take flow indicators. -/
def isTagChar (verbatim : Bool) (c : Char) : Bool :=
  isNameChar c || c == ';' || c == '/' || c == '?' || c == ':' || c == '@' || c == '&' || c == '=' ||
    c == '+' || c == '$' || c == '.' || c == '%' || c == '!' || c == '~' || c == '*' || c == '\'' ||
    c == '(' || c == ')' || (verbatim && (c == ',' || c == '[' || c == ']'))

/-- How many octets a UTF-8 sequence has that starts with this one. -/
def sequenceWidth? (octet : Nat) : Option Nat :=
  if octet < 0x80 then some 1
  else if 0xC0 ≤ octet ∧ octet < 0xE0 then some 2
  else if 0xE0 ≤ octet ∧ octet < 0xF0 then some 3
  else if 0xF0 ≤ octet ∧ octet < 0xF8 then some 4
  else none

/-- What the octets of an escape sequence are about to be. -/
inductive EscapeState where
  /-- Not inside an escape sequence. -/
  | outside
  /-- A percent sign is due, `left` octets of the character still to come. -/
  | percent (left value : Nat)
  /-- The first digit of an octet is due. -/
  | high (left value : Nat)
  /-- The second digit of an octet is due. -/
  | low (left value first : Nat)

/-- The bits that the first octet of a sequence of `width` octets contributes. -/
private def leadBits (width octet : Nat) : Nat :=
  if width = 1 then octet else octet % Nat.pow 2 (7 - width)

/-- A tag up to the first character that cannot belong to it. An escaped sequence that is no
character reads as the replacement character. -/
def tagText (verbatim : Bool) : EscapeState → Chars → Option (List Char × Chars)
  | .outside, [] => some ([], [])
  | _, [] => none
  | .outside, (c, m) :: r =>
    if c == '%' then tagText verbatim (.high 0 0) r
    else if isTagChar verbatim c then (tagText verbatim .outside r).map fun (t, s) => (c :: t, s)
    else some ([], (c, m) :: r)
  | .percent left value, (c, _) :: r => if c == '%' then tagText verbatim (.high left value) r else none
  | .high left value, (c, _) :: r =>
    match hexValue? c with
    | none => none
    | some d => tagText verbatim (.low left value d) r
  | .low left value first, (c, _) :: r =>
    match hexValue? c with
    | none => none
    | some d =>
      let octet := 16 * first + d
      let next (left value : Nat) : Option (List Char × Chars) :=
        if left = 0 then
          (tagText verbatim .outside r).map fun (t, s) => ((charOf? value).getD '\ufffd' :: t, s)
        else tagText verbatim (.percent left value) r
      if left = 0 then
        match sequenceWidth? octet with
        | none => none
        | some width => next (width - 1) (leadBits width octet)
      else if 0x80 ≤ octet ∧ octet < 0xC0 then next (left - 1) (64 * value + octet % 64)
      else none

/-- A tag handle: `!`, name characters, and perhaps another `!`. -/
def tagHandle : Chars → Option (List Char × Chars)
  | ('!', _) :: r =>
    let name := word isNameChar r
    let r := skip isNameChar r
    match r with
    | ('!', _) :: r => some ('!' :: (name ++ ['!']), r)
    | r => some ('!' :: name, r)
  | _ => none

/-- Whether a handle is closed by a second `!`. -/
private def isClosedHandle (h : List Char) : Bool := 1 < h.length && h.getLast? == some '!'

/-- A tag from its `!` on, as handle and suffix. The lone `!` has no handle. -/
def nodeTag (inFlow : Bool) (s : Chars) : Option (String × String × Chars) :=
  let parts := match s with
    | ('!', _) :: ('<', _) :: r =>
      match tagText true .outside r with
      | some (t, ('>', _) :: r) => if t.isEmpty then none else some ([], t, r)
      | _ => none
    | s =>
      match tagHandle s with
      | none => none
      | some (h, r) =>
        if isClosedHandle h then
          match tagText false .outside r with
          | some (t, r) => if t.isEmpty then none else some (h, t, r)
          | none => none
        else
          match tagText false .outside r with
          | none => none
          | some (t, r) =>
            let suffix := h.drop 1 ++ t
            if suffix.isEmpty then some ([], ['!'], r) else some (['!'], suffix, r)
  match parts with
  | none => none
  | some (h, t, r) =>
    if atBlank r || (inFlow && startsWith (· == ',') r) then some (String.ofList h, String.ofList t, r)
    else none

/-! ## Directives -/

/-- A version number of at most nine digits. -/
private def versionNumber (s : Chars) : Option (Nat × Chars) :=
  let ds := word Char.isDigit s
  if ds.isEmpty || 9 < ds.length then none
  else some (ds.foldl (fun n c => 10 * n + (c.toNat - '0'.toNat)) 0, skip Char.isDigit s)

/-- The major and minor version behind `%YAML`. -/
private def versionDirective (s : Chars) : Option (Kind × Chars) :=
  match versionNumber (skip isGap s) with
  | some (major, ('.', _) :: r) => (versionNumber r).map fun (minor, r) => (.versionDirective major minor, r)
  | _ => none

/-- The handle and what it stands for behind `%TAG`. -/
private def tagDirective (s : Chars) : Option (Kind × Chars) :=
  match tagHandle (skip isGap s) with
  | none => none
  | some (h, r) =>
    if !(isClosedHandle h || h == ['!']) || !startsWith isGap r then none
    else
      match tagText true .outside (skip isGap r) with
      | none => none
      | some (t, r) =>
        if t.isEmpty || !atBlank r then none
        else some (.tagDirective (String.ofList h) (String.ofList t), r)

/-- A directive from behind its percent sign, and the characters after its line. -/
def directive (s : Chars) : Option (Kind × Chars) :=
  let name := String.ofList (word isNameChar s)
  let r := skip isNameChar s
  let body :=
    if !atBlank r then none
    else if name = "YAML" then versionDirective r
    else if name = "TAG" then tagDirective r
    else none
  match body with
  | none => none
  | some (k, r) => (lineRest r).map fun r => (k, r)

end DatasetLint.Yaml.Token
