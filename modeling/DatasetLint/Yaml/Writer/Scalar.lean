import DatasetLint.Yaml.Scalar

/-!
# Writing scalars

A text is written plain where that reads back as the same text, else in single quotes, and in double
quotes where a character must be escaped. A text of several lines is a literal block, unless it
stands as a key on one line or a blank before a line end would be lost.
-/

namespace DatasetLint.Yaml.Writer

/-- The line ends that a reader takes for one. -/
def endsLine (c : Char) : Bool := c == '\n' || c == '\r' || c == '\u0085' || isSeparator c

/-- The characters that are written as they are. -/
def isPrintable (c : Char) : Bool :=
  let n := c.toNat
  c == '\n' || (0x20 ≤ n && n ≤ 0x7E) || (0xA0 ≤ n && n ≤ 0xFFFD && n != 0xFEFF) || 0x10000 ≤ n

/-- Blanks, line ends and the null character. -/
def isSpacing (c : Char) : Bool := isGap c || endsLine c || c == '\x00'

/-- Whether spacing or nothing comes next. -/
def spacingNext : List Char → Bool
  | [] => true
  | c :: _ => isSpacing c

/-- The characters with which no plain scalar begins. -/
def isLeadIndicator (c : Char) : Bool :=
  c == '#' || c == ',' || c == '[' || c == ']' || c == '\x7b' || c == '\x7d' || c == '&' || c == '*' ||
    c == '!' || c == '|' || c == '>' || c == '\'' || c == '"' || c == '%' || c == '@' || c == '\x60'

/-- Whether a colon before spacing or a hash behind it stands in the text; `spaced` tells whether
spacing comes before it. -/
def hasInnerIndicator (spaced : Bool) : List Char → Bool
  | [] => false
  | c :: r => (c == ':' && spacingNext r) || (c == '#' && spaced) || hasInnerIndicator (isSpacing c) r

/-- Whether a text would be taken for something else if it were written plain. -/
def hasIndicator : List Char → Bool
  | [] => false
  | c :: r =>
    ['-', '-', '-'].isPrefixOf (c :: r) || ['.', '.', '.'].isPrefixOf (c :: r) || isLeadIndicator c ||
      ((c == '?' || c == ':' || c == '-') && spacingNext r) || hasInnerIndicator (isSpacing c) r

/-- Whether a character that satisfies `p` is followed by one that satisfies `q`. -/
def hasPair (p q : Char → Bool) : List Char → Bool
  | a :: b :: r => (p a && q b) || hasPair p q (b :: r)
  | _ => false

/-- Whether the first or the last character satisfies `p`. -/
def bordered (p : Char → Bool) (cs : List Char) : Bool := cs.head?.any p || cs.getLast?.any p

/-- Whether a character has to be escaped, or a space before a line end would be lost. -/
def needsEscape (cs : List Char) : Bool :=
  cs.any (!isPrintable ·) || hasPair (· == ' ') endsLine cs

/-- Whether a text may be written plain. -/
def plainAllowed (cs : List Char) : Bool :=
  !(bordered (fun c => c == ' ' || endsLine c) cs || needsEscape cs || cs.any endsLine || hasIndicator cs)

/-- Whether a text may be written in single quotes. -/
def singleAllowed (cs : List Char) : Bool :=
  !(needsEscape cs || hasPair endsLine (· == ' ') cs)

/-- Whether a text may be written as a block. -/
def blockAllowed (cs : List Char) : Bool :=
  !(cs.isEmpty || cs.getLast? == some ' ' || needsEscape cs)

/-- The style asked for: a block for several lines, quotes for what would not read back as a text. -/
def wanted (s : String) : Style :=
  if s.toList.contains '\n' then .literal
  else
    match Scalar.ofPlain s with
    | .string _ => if Scalar.isZeroPadded s.toList then .singleQuoted else .plain
    | _ => .singleQuoted

/-- The style a text is written in; a key on one line is never a block. -/
def chosen (asKey : Bool) (style : Style) (cs : List Char) : Style :=
  let style := if asKey && cs.any endsLine then .doubleQuoted else style
  let style := if style = .plain && !plainAllowed cs then .singleQuoted else style
  let style := if style = .plain && cs.isEmpty && asKey then .singleQuoted else style
  let style := if style = .singleQuoted && !singleAllowed cs then .doubleQuoted else style
  if style = .literal && (asKey || !blockAllowed cs) then .doubleQuoted else style

def spaces (n : Nat) : List Char := List.replicate n ' '

/-- A text in single quotes: a quote is written twice, and the line after a line end is indented. -/
def singleBody (indent : Nat) (atBreak : Bool) : List Char → List Char
  | [] => if atBreak then spaces indent else []
  | c :: r =>
    if c == ' ' then c :: singleBody indent atBreak r
    else if endsLine c then c :: singleBody indent true r
    else
      (if atBreak then spaces indent else []) ++
        (if c == '\'' then ['\'', '\''] else [c]) ++ singleBody indent false r

/-- The letter that stands for a character behind a backslash. -/
def escapeLetter? : Char → Option Char
  | '\x00' => some '0'
  | '\x07' => some 'a'
  | '\x08' => some 'b'
  | '\t' => some 't'
  | '\n' => some 'n'
  | '\x0b' => some 'v'
  | '\x0c' => some 'f'
  | '\r' => some 'r'
  | '\x1b' => some 'e'
  | '"' => some '"'
  | '\\' => some '\\'
  | '\u0085' => some 'N'
  | '\u00a0' => some '_'
  | '\u2028' => some 'L'
  | '\u2029' => some 'P'
  | _ => none

/-- A hexadecimal digit with capital letters. -/
def hexDigit (d : Nat) : Char := if d < 10 then Char.ofNat (48 + d) else Char.ofNat (55 + d)

/-- The last `width` hexadecimal digits of a number. -/
def hexDigits : Nat → Nat → List Char
  | 0, _ => []
  | w + 1, n => hexDigits w (n / 16) ++ [hexDigit (n % 16)]

/-- One character in double quotes. -/
def doubleChar (c : Char) : List Char :=
  if isPrintable c && !endsLine c && c != '"' && c != '\\' then [c]
  else
    match escapeLetter? c with
    | some l => ['\\', l]
    | none =>
      let n := c.toNat
      if n ≤ 0xFF then '\\' :: 'x' :: hexDigits 2 n
      else if n ≤ 0xFFFF then '\\' :: 'u' :: hexDigits 4 n
      else '\\' :: 'U' :: hexDigits 8 n

/-- The lines of a block, each indented unless it is empty. -/
def blockBody (indent : Nat) (atBreak : Bool) : List Char → List Char
  | [] => []
  | c :: r =>
    if endsLine c then c :: blockBody indent true r
    else (if atBreak then spaces indent else []) ++ c :: blockBody indent false r

/-- How many columns a block inside another is deeper. -/
def indentStep : Nat := 2

/-- The indentation of a block, which is told where its text begins with spacing. -/
def indentHint : List Char → List Char
  | [] => []
  | c :: _ => if c == ' ' || endsLine c then Nat.toDigits 10 indentStep else []

/-- What becomes of the line ends behind a block: none are there, one stays, or all of them. -/
def chompHint (cs : List Char) : List Char :=
  match cs.reverse with
  | [] => ['-']
  | c :: r => if !endsLine c then ['-'] else if r.head?.all endsLine then ['+'] else []

/-- A text in a style, its continuation lines at column `indent`. -/
def scalarText (indent : Nat) (style : Style) (cs : List Char) : List Char :=
  match style with
  | .plain => cs
  | .singleQuoted => '\'' :: singleBody indent false cs ++ ['\'']
  | .doubleQuoted => '"' :: cs.flatMap doubleChar ++ ['"']
  | .literal | .folded => '|' :: (indentHint cs ++ chompHint cs) ++ '\n' :: blockBody indent true cs

end DatasetLint.Yaml.Writer
