import DatasetLint.Decimal.Integer
import DatasetLint.Decimal.Shortest

/-!
# How a floating-point value is written

The digits come from `Format.shortest`. A `Layout` decides the rest: where positional writing
ends, whether a whole number keeps `.0`, and the words for the values without digits.
-/

namespace DatasetLint.Decimal

/-- The decisions of a written form. `leastPoint` and `mostPoint` bound the place of the decimal
point, counted from the first digit, at which a number is still written positionally; `tie` decides
between two equally near digits. -/
structure Layout where
  tie : Tie
  leastPoint : Option Int
  mostPoint : Option Int
  infinity : String
  nan : String
deriving DecidableEq, Repr

/-- Numbers of a configuration document: positional from `0.00001` to sixteen whole digits, a half to
the even digit. -/
def Layout.document : Layout := ⟨.toEven, some (-4), some 16, ".inf", ".nan"⟩

/-- Numbers in messages: always positional, a half away from zero. -/
def Layout.message : Layout := ⟨.outward, none, none, "inf", "NaN"⟩

def zeros (n : Nat) : List Char := List.replicate n '0'

/-- Digits with the point in its place; at least one digit stands on each side. -/
def positional (ds : List Char) (point : Int) : List Char :=
  let n : Int := ds.length
  if point ≤ 0 then '0' :: '.' :: (zeros (-point).toNat ++ ds)
  else if n ≤ point then ds ++ zeros (point - n).toNat ++ ['.', '0']
  else ds.take point.toNat ++ '.' :: ds.drop point.toNat

/-- One digit, the others behind a point, and the power of ten after `e`. -/
def scientific (ds : List Char) (point : Int) : List Char :=
  let mantissa := match ds with
    | d :: (r@(_ :: _)) => d :: '.' :: r
    | ds => ds
  mantissa ++ 'e' :: (integerText (point - 1)).toList

/-- A value of the format as text. -/
def Layout.render (l : Layout) (f : Format) : Floating → String
  | .nan => l.nan
  | .infinity neg => if neg then "-" ++ l.infinity else l.infinity
  | .finite neg m e =>
    let d := f.shortest l.tie m e
    let ds := natDigits d.digits
    let point : Int := ds.length + d.exponent
    let inside := l.leastPoint.all (· ≤ point) && l.mostPoint.all (point ≤ ·)
    let body := if m = 0 then ['0', '.', '0'] else if inside then positional ds point else scientific ds point
    String.ofList (if neg then '-' :: body else body)

end DatasetLint.Decimal
