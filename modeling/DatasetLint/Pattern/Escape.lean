import DatasetLint.Decimal.Integer
import DatasetLint.Pattern.Flags
import DatasetLint.Pattern.Regex

/-!
# Escapes

What a backslash and the characters behind it stand for.
-/

namespace DatasetLint.Pattern

open Unicode

/-- What stands for one place in a pattern. -/
inductive Primitive where
  /-- A character; `octet` tells that two hexadecimal digits wrote it. -/
  | char (c : Char) (octet : Bool)
  | set (s : CharSet)
  | look (l : Look)

namespace Escape

def isHex (c : Char) : Bool := (Decimal.digitValue 16 c).isSome

def hexValue (ds : List Char) : Nat := ds.foldl (fun n c => 16 * n + (Decimal.digitValue 16 c).getD 0) 0

/-- The character of a code point. -/
def charOf? (n : Nat) : Option Char := if n.isValidChar then some (Char.ofNat n) else none

/-- Hexadecimal digits, exactly `n`. -/
def fixedDigits (f : Flags) : Nat → List Char → Option (List Char × List Char)
  | 0, cs => some ([], cs)
  | _ + 1, [] => none
  | n + 1, c :: cs =>
    if isHex c then (fixedDigits f n (f.skipSpace cs)).map fun (ds, r) => (c :: ds, r) else none

/-- Characters up to a closing brace. With `fuel` for each character they end before it runs out. -/
def untilBrace (f : Flags) : Nat → List Char → Option (List Char × List Char)
  | 0, _ => none
  | _, [] => none
  | fuel + 1, c :: cs =>
    if c == '\x7d' then some ([], cs)
    else (untilBrace f fuel (f.skipSpace cs)).map fun (ds, r) => (c :: ds, r)

/-- The content of braces from behind the opening one. -/
def braced (f : Flags) (cs : List Char) : Option (List Char × List Char) :=
  let cs := f.skipSpace cs
  untilBrace f (cs.length + 1) cs

/-- A code point in hexadecimal: `width` digits, or digits in braces. -/
def hex (f : Flags) (width : Nat) (cs : List Char) : Option (Primitive × List Char) :=
  match f.skipSpace cs with
  | '\x7b' :: r =>
    match braced f r with
    | none => none
    | some (ds, r) =>
      if ds.isEmpty || !ds.all isHex then none
      else (charOf? (hexValue ds)).map fun c => (.char c false, f.skipSpace r)
  | r =>
    match fixedDigits f width r with
    | none => none
    | some (ds, r) => (charOf? (hexValue ds)).map fun c => (.char c (width == 2), r)

/-- A name cut at the first place where `mark` stands. -/
def cutAt (mark : List Char) : List Char → Option (List Char × List Char)
  | [] => none
  | c :: cs =>
    if mark.isPrefixOf (c :: cs) then some ([], (c :: cs).drop mark.length)
    else (cutAt mark cs).map fun (a, b) => (c :: a, b)

/-- The characters that a name in braces stands for: `name`, `name=value`, `name:value` or
`name!=value`. -/
def propertyOf (name : List Char) : Option CharSet :=
  match cutAt ['!', '='] name, cutAt [':'] name, cutAt ['='] name with
  | some (n, v), _, _ => valued? n v
  | none, some (n, v), _ => valued? n v
  | none, none, some (n, v) => valued? n v
  | none, none, none => named? name

/-- A property of Unicode, from behind the letter. -/
def property (f : Flags) (negated : Bool) (cs : List Char) : Option (Primitive × List Char) :=
  let found := match f.skipSpace cs with
    | [] => none
    | '\x7b' :: r => (braced f r).bind fun (name, r) => (propertyOf name).map (·, r)
    | c :: r => if c == '\\' then none else (named? [c]).map (·, f.skipSpace r)
  match found with
  | none => none
  | some (s, r) =>
    if !f.unicode then none
    else
      let s := if f.ignoreCase then closeUnderCase s else s
      some (.set (if negated then s.compl else s), r)

/-- The conditions on word boundaries that have names. -/
def namedBoundary? (unicode : Bool) (name : List Char) : Option Look :=
  let n := String.ofList name
  if n = "start" then some (.wordStart unicode)
  else if n = "end" then some (.wordEnd unicode)
  else if n = "start-half" then some (.wordStartHalf unicode)
  else if n = "end-half" then some (.wordEndHalf unicode)
  else none

def isBoundaryChar (c : Char) : Bool := c.isAlpha || c == '-'

/-- The letters of a boundary's name, with blanks between them passed over where they do not count. -/
def boundaryName (f : Flags) : Nat → List Char → List Char × List Char
  | 0, cs => ([], cs)
  | _, [] => ([], [])
  | fuel + 1, c :: cs =>
    if isBoundaryChar c then
      let (n, r) := boundaryName f fuel (f.skipSpace cs)
      (c :: n, r)
    else ([], c :: cs)

/-- A word boundary from behind its letter. A brace and a letter behind it begin a name; any other
brace counts repetitions. -/
def boundary (f : Flags) (cs : List Char) : Option (Primitive × List Char) :=
  match cs with
  | '\x7b' :: r =>
    match f.skipSpace r with
    | [] => none
    | c :: r' =>
      if !isBoundaryChar c then some (.look (.wordBoundary f.unicode), cs)
      else
        match boundaryName f (r'.length + 2) (c :: r') with
        | (name, '\x7d' :: rest) => (namedBoundary? f.unicode name).map fun l => (.look l, rest)
        | _ => none
  | _ => some (.look (.wordBoundary f.unicode), cs)

/-- The characters that have a meaning somewhere in a pattern. -/
def isMeta (c : Char) : Bool := "\\.+*?()|[]\x7b\x7d^$#&-~".toList.contains c

/-- The characters that stand for themselves behind a backslash. -/
def standsForItself (c : Char) : Bool :=
  isMeta c || (c.toNat < 0x80 && !c.isAlphanum && c != '<' && c != '>')

/-- A class of characters under the letter that names it, or what is not in it under the capital
letter. All that is not in a class of ASCII reaches beyond the characters. -/
def letterSet (f : Flags) (letter : Char) : Option CharSet :=
  match letterClass? f.unicode letter with
  | some s => some s
  | none =>
    if f.unicode && letter.isUpper then (letterClass? true letter.toLower).map CharSet.compl else none

/-- The control characters that letters name. -/
def control? : Char → Option Char
  | 'a' => some '\x07'
  | 'f' => some '\x0c'
  | 't' => some '\t'
  | 'n' => some '\n'
  | 'r' => some '\r'
  | 'v' => some '\x0b'
  | _ => none

/-- The conditions that letters and angle brackets name. -/
def lookOf? (unicode : Bool) : Char → Option Look
  | 'A' => some .textStart
  | 'z' => some .textEnd
  | 'B' => some (.notWordBoundary unicode)
  | '<' => some (.wordStart unicode)
  | '>' => some (.wordEnd unicode)
  | _ => none

/-- An escape from behind the backslash. -/
def read (f : Flags) : List Char → Option (Primitive × List Char)
  | [] => none
  | 'x' :: r => hex f 2 r
  | 'u' :: r => hex f 4 r
  | 'U' :: r => hex f 8 r
  | 'p' :: r => property f false r
  | 'P' :: r => property f true r
  | 'b' :: r => boundary f r
  | c :: r =>
    if "dswDSW".toList.contains c then (letterSet f c).map fun s => (.set s, r)
    else if standsForItself c then some (.char c false, r)
    else
      match control? c, lookOf? f.unicode c with
      | some d, _ => some (.char d false, r)
      | none, some l => some (.look l, r)
      | none, none => none

end Escape

end DatasetLint.Pattern
