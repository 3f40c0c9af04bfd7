import DatasetLint.Unicode.Category
import DatasetLint.Unicode.Property

/-!
# Quoted text in messages

A text between double quotes, in which the quote, the backslash and the common control characters
have short escapes, and every other character that would not show has its code point.
-/

namespace DatasetLint.Text

/-- A number in hexadecimal, with small letters and no leading zeros. -/
def hexText (n : Nat) : List Char := Nat.toDigits 16 n

/-- One character of a quoted text. -/
def quoteChar (c : Char) : List Char :=
  if c == '\x00' then ['\\', '0']
  else if c == '\t' then ['\\', 't']
  else if c == '\r' then ['\\', 'r']
  else if c == '\n' then ['\\', 'n']
  else if c == '\\' || c == '"' then ['\\', c]
  else if Unicode.graphemeExtend.contains c || !Unicode.isPrintable c then
    ['\\', 'u', '\x7b'] ++ hexText c.toNat ++ ['\x7d']
  else [c]

/-- A text in quotes. -/
def quoted (s : String) : String := String.ofList ('"' :: s.toList.flatMap quoteChar ++ ['"'])

/-- A word between backticks. -/
def ticked (s : String) : String := "\x60" ++ s ++ "\x60"

end DatasetLint.Text
