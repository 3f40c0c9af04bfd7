import DatasetLint.Decimal.Layout
import DatasetLint.Decimal.Numeral
import DatasetLint.Yaml.Token

/-!
# What plain scalars mean

A plain scalar is null, a boolean, an integer, a float or a text, tried in this order. Integers are
decimal without leading zeros, or hexadecimal, octal or binary behind `0x`, `0o`, `0b`, with an
optional sign; floats are finite decimals or one of the words for infinity and NaN.
-/

namespace DatasetLint.Yaml

open Decimal

/-- The meaning of a scalar. -/
inductive Scalar where
  | null
  | bool (value : Bool)
  | int (value : Int)
  | float (value : Floating)
  | string (value : String)
deriving DecidableEq, Repr

namespace Scalar

def isNullWord (s : String) : Bool := s == "~" || s == "null" || s == "Null" || s == "NULL"

def readBool? (s : String) : Option Bool :=
  if s == "true" || s == "True" || s == "TRUE" then some true
  else if s == "false" || s == "False" || s == "FALSE" then some false
  else none

/-- Digits with a leading zero, and more than one: a text, not a number. -/
def isZeroPadded (cs : List Char) : Bool :=
  let ds := match cs with
    | '-' :: r => r
    | '+' :: r => r
    | r => r
  match ds with
  | '0' :: r@(_ :: _) => r.all Char.isDigit
  | _ => false

/-- The base that a letter behind `0` announces. -/
def radixOf? : Char → Option Nat
  | 'x' => some 16
  | 'o' => some 8
  | 'b' => some 2
  | _ => none

/-- The digits behind `0x`, `0o` or `0b`, which no sign precedes. -/
def readRadix? (r : Range) (negative : Bool) : List Char → Option Int
  | '0' :: x :: ds =>
    match radixOf? x with
    | none => none
    | some radix =>
      if ds.head?.any fun c => c == '+' || c == '-' then none
      else (r.read? radix (if negative then '-' :: ds else ds)).toOption
  | _ => none

/-- A natural number of the range, with an optional plus sign. -/
def readNatural? (r : Range) (cs : List Char) : Option Int :=
  let body := match cs with
    | '+' :: b => b
    | b => b
  (readRadix? r false body).or
    (if (body.head?.any fun c => c == '+' || c == '-') || isZeroPadded cs then none
      else (r.read? 10 body).toOption)

/-- An integer of the range written with a minus sign, or without a sign in decimal. -/
def readNegative? (r : Range) (cs : List Char) : Option Int :=
  let inRadix := match cs with
    | '-' :: b => readRadix? r true b
    | _ => none
  inRadix.or (if isZeroPadded cs then none else (r.read? 10 cs).toOption)

/-- An integer: a natural number of 64 bits, a negative one of 64 bits, or one of 128 bits. -/
def readInt? (s : String) : Option Int :=
  let cs := s.toList
  (((readNatural? (.unsigned 64) cs).or (readNegative? (.signed 63) cs)).or
    (readNatural? (.unsigned 128) cs)).or (readNegative? (.signed 127) cs)

/-- Whether an integer fits the numbers of a document. -/
def isWordSized (i : Int) : Bool := -(Nat.pow 2 63 : Int) ≤ i && i < Nat.pow 2 64

/-- The words for infinity, without a sign. -/
def isInfinityWord (cs : List Char) : Bool :=
  cs == ".inf".toList || cs == ".Inf".toList || cs == ".INF".toList

/-- A float: a word, or a decimal that is finite after rounding. -/
def readFloat? (s : String) : Option Floating :=
  let cs := s.toList
  let body := match cs with
    | '+' :: b => b
    | b => b
  if cs.head? == some '+' && (body.head?.any fun c => c == '+' || c == '-') then none
  else if isInfinityWord body then some (.infinity false)
  else if cs.head? == some '-' && isInfinityWord (cs.drop 1) then some (.infinity true)
  else if cs == ".nan".toList || cs == ".NaN".toList || cs == ".NAN".toList then some .nan
  else (binary64.read? body).toOption.filter (·.isFinite)

/-- The meaning of a plain scalar without tag. -/
def ofPlain (s : String) : Scalar :=
  if s.isEmpty || isNullWord s then .null
  else
    match readBool? s, readInt? s with
    | some b, _ => .bool b
    | none, some i => .int i
    | none, none =>
      if isZeroPadded s.toList then .string s
      else
        match readFloat? s with
        | some v => .float v
        | none => .string s

/-- The text of a scalar as a document shows it. -/
def text : Scalar → String
  | null => "null"
  | bool b => if b then "true" else "false"
  | int i => integerText i
  | float v => Layout.document.render binary64 v
  | string s => s

end Scalar

end DatasetLint.Yaml
