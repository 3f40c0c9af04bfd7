import DatasetLint.Decimal.Integer

/-!
# JSON

The values of JSON that reports are made of, on one line or with an entry a line.
-/

namespace DatasetLint.Report

inductive Json where
  | number (n : Nat)
  | text (s : String)
  | array (items : List Json)
  | object (entries : List (String × Json))
deriving Repr, Inhabited

namespace Json

/-- A hexadecimal digit, small. -/
def hexDigit (n : Nat) : Char := if n < 10 then Char.ofNat (48 + n) else Char.ofNat (87 + n)

/-- A character of a text: the quote, the backslash and the control characters are escaped. -/
def escapeChar (c : Char) : List Char :=
  if c == '"' then ['\\', '"']
  else if c == '\\' then ['\\', '\\']
  else if c == '\n' then ['\\', 'n']
  else if c == '\r' then ['\\', 'r']
  else if c == '\t' then ['\\', 't']
  else if c == '\x08' then ['\\', 'b']
  else if c == '\x0c' then ['\\', 'f']
  else if c.toNat < 0x20 then ['\\', 'u', '0', '0', hexDigit (c.toNat / 16), hexDigit (c.toNat % 16)]
  else [c]

/-- A text in quotes. -/
def quote (s : String) : List Char := '"' :: s.toList.flatMap escapeChar ++ ['"']

mutual

/-- A value on one line, without blanks. -/
def compact : Json → List Char
  | number n => Decimal.natDigits n
  | text s => quote s
  | array items => '[' :: compactItems true items ++ [']']
  | object entries => '\x7b' :: compactEntries true entries ++ ['\x7d']

def compactItems (first : Bool) : List Json → List Char
  | [] => []
  | x :: xs => (if first then [] else [',']) ++ compact x ++ compactItems false xs

def compactEntries (first : Bool) : List (String × Json) → List Char
  | [] => []
  | (k, x) :: es => (if first then [] else [',']) ++ quote k ++ ':' :: compact x ++ compactEntries false es

end

/-- A new line at a depth. -/
def newLine (depth : Nat) : List Char := '\n' :: List.replicate (2 * depth) ' '

mutual

/-- A value with an entry a line, each two columns deeper than what it is in. -/
def pretty (depth : Nat) : Json → List Char
  | number n => Decimal.natDigits n
  | text s => quote s
  | array [] => ['[', ']']
  | array items@(_ :: _) => '[' :: prettyItems (depth + 1) true items ++ newLine depth ++ [']']
  | object [] => ['\x7b', '\x7d']
  | object entries@(_ :: _) => '\x7b' :: prettyEntries (depth + 1) true entries ++ newLine depth ++ ['\x7d']

def prettyItems (depth : Nat) (first : Bool) : List Json → List Char
  | [] => []
  | x :: xs => (if first then [] else [',']) ++ newLine depth ++ pretty depth x ++ prettyItems depth false xs

def prettyEntries (depth : Nat) (first : Bool) : List (String × Json) → List Char
  | [] => []
  | (k, x) :: es =>
    (if first then [] else [',']) ++ newLine depth ++ quote k ++ ':' :: ' ' :: pretty depth x ++
      prettyEntries depth false es

end

end Json

end DatasetLint.Report
