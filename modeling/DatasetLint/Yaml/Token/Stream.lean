import DatasetLint.Yaml.Token.Property

/-!
# The token stream of a text

A scalar may turn out to be a mapping key only when the colon behind it is met, on the same line and
within 1024 characters. Until then its token waits in a queue, so that the tokens opening the key can
still be put before it. `TokenStream.ofSource` gives the tokens that are certain before the first
ill-formed place, and whether there was one.
-/

namespace DatasetLint.Yaml

/-- The tokens of a text up to its end or to the first ill-formed place. -/
structure TokenStream where
  tokens : List Token
  wellFormed : Bool
deriving Repr

namespace Token

open Chars

/-- A place at which a mapping key may have begun. -/
structure PossibleKey where
  /-- Whether the text is ill-formed unless it is a key. -/
  required : Bool
  /-- How many tokens precede it. -/
  number : Nat
  mark : Mark
deriving DecidableEq, Repr

/-- How far a text has been scanned. -/
structure Scan where
  rest : Chars
  /-- The position behind the last character of the text. -/
  stop : Mark
  /-- The tokens that are certain, the latest first. -/
  certain : List Token
  /-- The tokens that may still get others before them. -/
  queue : List Token
  /-- The columns of the open block collections, the innermost first. -/
  blocks : List Nat
  /-- The possible key of each open flow collection, the innermost first, and that outside of all. -/
  keys : List (Option PossibleKey)
  /-- Whether a key may begin here. -/
  keyAllowed : Bool
  done : Bool

namespace Scan

def mark (s : Scan) : Mark := here s.stop s.rest

def inFlow (s : Scan) : Bool := 1 < s.keys.length

/-- The column of the innermost open block collection. -/
def block (s : Scan) : Option Nat := s.blocks.head?

def push (s : Scan) (t : Token) : Scan := { s with queue := s.queue ++ [t] }

/-- The next `n` characters become a token. -/
def indicator (s : Scan) (k : Kind) (n : Nat) : Scan :=
  let r := s.rest.drop n
  { s with rest := r }.push ⟨k, s.mark, here s.stop r⟩

/-- What was scanned becomes a token and `r` is left. -/
def accept (s : Scan) (k : Kind) (r : Chars) : Scan :=
  { s with rest := r }.push ⟨k, s.mark, here s.stop r⟩

/-! ## Blanks between tokens -/

/-- Blanks, comments and line ends are passed over; outside of flow collections a line end allows a
key again, and a tab is refused where a key is allowed. -/
def skipBlanks (inFlow inComment keyAllowed : Bool) : Chars → Chars × Bool
  | [] => ([], keyAllowed)
  | (c, m) :: r =>
    if isBreak c then skipBlanks inFlow false (keyAllowed || !inFlow) r
    else if inComment then skipBlanks inFlow true keyAllowed r
    else if c == ' ' || (c == '\t' && (inFlow || !keyAllowed)) then skipBlanks inFlow false keyAllowed r
    else if c == '#' then skipBlanks inFlow true keyAllowed r
    else ((c, m) :: r, keyAllowed)

/-- To the next character that belongs to a token. A byte order mark may start the text. -/
def toNextToken (s : Scan) : Scan :=
  let rest := match s.rest with
    | (c, m) :: r => if c == '\ufeff' && m.index == 0 then r else s.rest
    | [] => []
  let (r, allowed) := skipBlanks s.inFlow false s.keyAllowed rest
  { s with rest := r, keyAllowed := allowed }

/-! ## Possible keys -/

/-- How many characters a key and the blanks behind it may have. -/
def keyLimit : Nat := 1024

/-- Whether a possible key can no longer be one at a position. -/
def PossibleKey.isStale (at_ : Mark) (k : PossibleKey) : Bool :=
  k.mark.line < at_.line || k.mark.index + keyLimit < at_.index

/-- Possible keys that are past are given up, unless one was required. -/
def dropStale (s : Scan) : Option Scan :=
  let stale (k : Option PossibleKey) : Bool := k.any (PossibleKey.isStale s.mark)
  if s.keys.any fun k => stale k && k.any (·.required) then none
  else some { s with keys := s.keys.map fun k => if stale k then none else k }

/-- The innermost possible key is given up, unless it was required. -/
def dropKey (s : Scan) : Option Scan :=
  match s.keys with
  | [] => some s
  | k :: ks => if k.any (·.required) then none else some { s with keys := none :: ks }

/-- Where a key is allowed, one may begin here. -/
def saveKey (s : Scan) : Option Scan :=
  if s.keyAllowed then
    let k : PossibleKey :=
      { required := !s.inFlow && s.block == some s.mark.column
        number := s.certain.length + s.queue.length
        mark := s.mark }
    s.dropKey.map fun s => { s with keys := some k :: s.keys.drop 1 }
  else some s

/-! ## Block collections -/

/-- Whether a column is inside the innermost block collection. -/
def isDeeper (s : Scan) (column : Nat) : Bool := s.block.all (· < column)

/-- A block collection opens at a column that is deeper than the enclosing one; its token goes
before the token of the given number. -/
def openBlock (s : Scan) (k : Kind) (column number : Nat) (m : Mark) : Scan :=
  if !s.inFlow && s.isDeeper column then
    { s with
      blocks := column :: s.blocks
      queue := s.queue.insertIdx (number - s.certain.length) ⟨k, m, m⟩ }
  else s

/-- A block collection opens at the current character. -/
def openBlockHere (s : Scan) (k : Kind) : Scan :=
  s.openBlock k s.mark.column (s.certain.length + s.queue.length) s.mark

/-- The block collections that are open deeper than all of `least`. -/
def closing (least : Option Nat) (blocks : List Nat) : List Nat :=
  blocks.takeWhile fun b => least.all (· < b)

/-- Block collections deeper than a column end here; with `none` all of them do. -/
def closeBlocks (s : Scan) (least : Option Nat) (m : Mark) : Scan :=
  if s.inFlow then s
  else
    let ended := closing least s.blocks
    { s with
      blocks := s.blocks.drop ended.length
      queue := s.queue ++ ended.map fun _ => ⟨.blockEnd, m, m⟩ }

/-! ## One token -/

/-- The end of the text closes all block collections. -/
def atEnd (s : Scan) : Option Scan :=
  let m := s.mark.toLineStart
  ((s.closeBlocks none m).dropKey).map fun s =>
    { s.push ⟨.streamEnd, m, m⟩ with keyAllowed := false, done := true }

/-- A directive or a document marker closes all block collections too. -/
def atDocument (s : Scan) : Option Scan :=
  ((s.closeBlocks none s.mark).dropKey).map fun s => { s with keyAllowed := false }

def openFlow (s : Scan) (k : Kind) : Option Scan :=
  s.saveKey.map fun s => { s.indicator k 1 with keys := none :: s.keys, keyAllowed := true }

def closeFlow (s : Scan) (k : Kind) : Option Scan :=
  s.dropKey.map fun s =>
    { s.indicator k 1 with keys := if s.inFlow then s.keys.drop 1 else s.keys, keyAllowed := false }

def flowEntry (s : Scan) : Option Scan :=
  s.dropKey.map fun s => { s.indicator .flowEntry 1 with keyAllowed := true }

/-- A dash outside of flow collections must stand where a key may. -/
def blockEntry (s : Scan) : Option Scan :=
  if !s.inFlow && !s.keyAllowed then none
  else (s.openBlockHere .blockSequenceStart).dropKey.map fun s =>
    { s.indicator .blockEntry 1 with keyAllowed := true }

def explicitKey (s : Scan) : Option Scan :=
  if !s.inFlow && !s.keyAllowed then none
  else (s.openBlockHere .blockMappingStart).dropKey.map fun s =>
    { s.indicator .key 1 with keyAllowed := !s.inFlow }

/-- A colon makes the possible key a key, and may open a mapping there. -/
def value (s : Scan) : Option Scan :=
  match s.keys with
  | some k :: ks =>
    let s := { s with queue := s.queue.insertIdx (k.number - s.certain.length) ⟨.key, k.mark, k.mark⟩ }
    let s := s.openBlock .blockMappingStart k.mark.column k.number k.mark
    some { s.indicator .value 1 with keys := none :: ks, keyAllowed := false }
  | _ =>
    if !s.inFlow && !s.keyAllowed then none
    else some { (s.openBlockHere .blockMappingStart).indicator .value 1 with keyAllowed := !s.inFlow }

/-- An anchor, alias, tag or quoted scalar: a key may begin with it, but none directly behind it. -/
def nodeToken (s : Scan) (read : Option (Kind × Chars)) : Option Scan :=
  match s.saveKey, read with
  | some s, some (k, r) => some { s.accept k r with keyAllowed := false }
  | _, _ => none

def blockScalar (s : Scan) (literal : Bool) : Option Scan :=
  match s.dropKey, Token.blockScalar literal s.block s.stop (s.rest.drop 1) with
  | some s, some (t, r) =>
    some { s.accept (.scalar (String.ofList t) (if literal then .literal else .folded)) r with
      keyAllowed := true }
  | _, _ => none

/-- A plain scalar allows a key behind it if a line has ended since. -/
def plainScalar (s : Scan) : Option Scan :=
  let x : PlainContext := ⟨s.inFlow, s.block.elim 0 (· + 1), s.stop⟩
  match s.saveKey, plainRest x s.mark false .none s.rest with
  | some s, some p =>
    let t : Token := ⟨.scalar (String.ofList p.text) .plain, s.mark, p.stop⟩
    some { s.push t with rest := p.rest, keyAllowed := p.atNewLine }
  | _, _ => none

/-- The characters that no plain scalar starts with. -/
def isIndicator (c : Char) : Bool :=
  isFlowIndicator c || c == '-' || c == '?' || c == ':' || c == '#' || c == '&' || c == '*' || c == '!' ||
    c == '|' || c == '>' || c == '\'' || c == '"' || c == '%' || c == '@' || c == '\x60'

/-- Whether a plain scalar starts with `c` before `r`: not with a tab that was left standing nor with an
indicator, except a dash that no blank follows and, outside of flow collections, a question mark or
colon of that kind. -/
def startsPlain (inFlow : Bool) (c : Char) (r : Chars) : Bool :=
  !(isGap c || isIndicator c) || (c == '-' && !startsWith isGap r) ||
    (!inFlow && (c == '?' || c == ':') && !atBlank r)

/-- The token that starts at the current character, in the order in which its forms are tried. -/
def token (s : Scan) (c : Char) (r : Chars) : Option Scan :=
  let atStart := s.mark.column == 0
  if atStart && c == '%' then
    match s.atDocument, directive r with
    | some s, some (k, r) => some (s.accept k r)
    | _, _ => none
  else if atStart && atDocumentMarker s.rest then
    s.atDocument.map fun s => s.indicator (if c == '-' then .documentStart else .documentEnd) 3
  else if c == '[' then s.openFlow .flowSequenceStart
  else if c == '{' then s.openFlow .flowMappingStart
  else if c == ']' then s.closeFlow .flowSequenceEnd
  else if c == '}' then s.closeFlow .flowMappingEnd
  else if c == ',' then s.flowEntry
  else if c == '-' && atBlank r then s.blockEntry
  else if c == '?' && (s.inFlow || atBlank r) then s.explicitKey
  else if c == ':' && (s.inFlow || atBlank r) then s.value
  else if c == '*' then s.nodeToken ((nodeName r).map fun (n, r) => (.reference n, r))
  else if c == '&' then s.nodeToken ((nodeName r).map fun (n, r) => (.anchor n, r))
  else if c == '!' then s.nodeToken ((nodeTag s.inFlow s.rest).map fun (h, t, r) => (.tag h t, r))
  else if c == '|' && !s.inFlow then s.blockScalar true
  else if c == '>' && !s.inFlow then s.blockScalar false
  else if c == '\'' then
    s.nodeToken ((singleQuoted false .none r).map fun (t, r) => (.scalar (String.ofList t) .singleQuoted, r))
  else if c == '"' then
    s.nodeToken ((doubleQuoted (.text .none) r).map fun (t, r) => (.scalar (String.ofList t) .doubleQuoted, r))
  else if startsPlain s.inFlow c r then s.plainScalar
  else none

/-- The next token, with the tokens that its indentation closes before it. -/
def fetch (s : Scan) : Option Scan :=
  match s.toNextToken.dropStale with
  | none => none
  | some s =>
    let s := s.closeBlocks (some s.mark.column) s.mark
    match s.rest with
    | [] => s.atEnd
    | (c, _) :: r => s.token c r

/-! ## The stream -/

/-- Queued tokens become certain up to the first that a possible key may still precede. -/
def releaseFrom (keys : List (Option PossibleKey)) : List Token → List Token → List Token × List Token
  | certain, [] => (certain, [])
  | certain, t :: q =>
    if keys.any (·.any (·.number == certain.length)) then (certain, t :: q)
    else releaseFrom keys (t :: certain) q

def release (s : Scan) : Option Scan :=
  s.dropStale.map fun s =>
    let r := releaseFrom s.keys s.certain s.queue
    { s with certain := r.1, queue := r.2 }

/-- Tokens are fetched until the text ends or is ill-formed. Every fetch but the last passes over a
character, so `fuel` one above their number is enough. -/
def run : Nat → Scan → Scan × Bool
  | 0, s => (s, false)
  | fuel + 1, s =>
    if s.done then (s, true)
    else
      match s.fetch.bind release with
      | none => (s, false)
      | some s => run fuel s

end Scan

end Token

namespace TokenStream

/-- The tokens of a source. -/
def ofSource (x : Source) : TokenStream :=
  let r := Token.Scan.run (x.chars.length + 2)
    { rest := x.chars, stop := x.stop, certain := [], queue := [], blocks := [], keys := [none]
      keyAllowed := true, done := false }
  ⟨r.1.certain.reverse, r.2⟩

/-- The tokens of a text. A character that YAML does not allow makes all of it ill-formed. -/
def ofText (s : String) : TokenStream :=
  if s.toList.all isAllowed then ofSource (.ofText s) else ⟨[], false⟩

end TokenStream

end DatasetLint.Yaml
