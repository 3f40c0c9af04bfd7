import DatasetLint.Decimal.Floating
import DatasetLint.Decimal.Integer

/-!
# Decimal numerals

A numeral is `± digits · 10 ^ exponent`. The written form has digits with at most one point among
or beside them and an optional power of ten; the words `inf`, `infinity` and `nan` stand for
themselves in any letter case.
-/

namespace DatasetLint.Decimal

/-- The number `± digits · 10 ^ exponent`. -/
structure Numeral where
  negative : Bool
  digits : Nat
  exponent : Int
deriving DecidableEq, Repr

/-- The number that decimal digits denote; every character is taken for a digit. -/
def digitsValue (cs : List Char) : Nat :=
  cs.foldl (fun acc c => 10 * acc + (c.toNat - '0'.toNat)) 0

/-- A power of ten after `e` or `E`: an optional sign and at least one digit. -/
def readExponent? : List Char → Option Int
  | [] => some 0
  | c :: cs =>
    if c == 'e' || c == 'E' then
      let (negative, ds) := match cs with
        | '+' :: ds => (false, ds)
        | '-' :: ds => (true, ds)
        | ds => (false, ds)
      if !ds.isEmpty && ds.all Char.isDigit then
        let n : Int := digitsValue ds
        some (if negative then -n else n)
      else none
    else none

/-- A numeral without sign: digits, or digits around or on one side of a point, then a power. -/
def Numeral.readUnsigned? (negative : Bool) (cs : List Char) : Option Numeral :=
  let whole := cs.takeWhile Char.isDigit
  let rest := cs.dropWhile Char.isDigit
  let (fraction, rest) := match rest with
    | '.' :: r => (r.takeWhile Char.isDigit, r.dropWhile Char.isDigit)
    | r => ([], r)
  if whole.isEmpty && fraction.isEmpty then none
  else (readExponent? rest).map fun e => ⟨negative, digitsValue (whole ++ fraction), e - fraction.length⟩

/-- A numeral beyond these powers of ten rounds to zero or to infinity in both formats. -/
def farPower : Int := 5000

/-- The value of a format nearest to a numeral. -/
def Numeral.toFloating (f : Format) (n : Numeral) : Floating :=
  let width : Int := (natDigits n.digits).length
  if n.digits = 0 then f.round n.negative 0 1
  else if farPower < n.exponent + width then .infinity n.negative
  else if n.exponent + width < -farPower then f.round n.negative 0 1
  else if 0 ≤ n.exponent then f.round n.negative (n.digits * Nat.pow 10 n.exponent.toNat) 1
  else f.round n.negative n.digits (Nat.pow 10 (-n.exponent).toNat)

/-- Why a text is no number. -/
inductive FloatingFault where
  | empty
  | invalid
deriving DecidableEq, Repr

def FloatingFault.message : FloatingFault → String
  | .empty => "cannot parse float from empty string"
  | .invalid => "invalid float literal"

/-- The words for the values that have no digits. -/
def specialValue? (negative : Bool) (cs : List Char) : Option Floating :=
  let word := String.ofList (cs.map Char.toLower)
  if word = "inf" || word = "infinity" then some (.infinity negative)
  else if word = "nan" then some .nan
  else none

/-- A number of the format: an optional sign, then a numeral or a word. -/
def Format.read? (f : Format) (cs : List Char) : Except FloatingFault Floating :=
  if cs.isEmpty then .error .empty
  else
    let (negative, body) := match cs with
      | '+' :: r => (false, r)
      | '-' :: r => (true, r)
      | r => (false, r)
    match Numeral.readUnsigned? negative body with
    | some n => .ok (n.toFloating f)
    | none =>
      match specialValue? negative body with
      | some v => .ok v
      | none => .error .invalid

end DatasetLint.Decimal
