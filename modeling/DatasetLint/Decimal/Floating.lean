/-!
# Binary floating-point values

A finite value is `± mantissa · 2 ^ exponent`. A `Format` says how many bits the mantissa has and
how far the exponent reaches; `Format.round` takes a quotient of natural numbers to the nearest
value of the format, a half going to the even mantissa.
-/

namespace DatasetLint.Decimal

/-- A binary format: mantissas below `2 ^ precision`, exponents from `minExp` to `maxExp`. -/
structure Format where
  precision : Nat
  minExp : Int
  maxExp : Int
deriving DecidableEq, Repr

/-- IEEE 754 binary64. -/
def binary64 : Format := ⟨53, -1074, 971⟩

/-- IEEE 754 binary32. -/
def binary32 : Format := ⟨24, -149, 104⟩

/-- A floating-point value. A finite one is in lowest position when its mantissa fills the
precision or its exponent is the least one of the format. -/
inductive Floating where
  | nan
  | infinity (negative : Bool)
  | finite (negative : Bool) (mantissa : Nat) (exponent : Int)
deriving DecidableEq, Repr

namespace Floating

def isFinite : Floating → Bool
  | finite .. => true
  | _ => false

/-- Equality of numbers: both zeros are equal, and here a NaN equals a NaN. -/
def same : Floating → Floating → Bool
  | nan, nan => true
  | infinity a, infinity b => a == b
  | finite a m e, finite b n f => (m == 0 && n == 0) || (a == b && m == n && e == f)
  | _, _ => false

end Floating

/-- `num / den` to the nearest natural number, a half to the even one. -/
def roundHalfEven (num den : Nat) : Nat :=
  let q := num / den
  let twice := 2 * (num % den)
  if den < twice || (twice == den && q % 2 == 1) then q + 1 else q

/-- `num / den · 2 ^ (-e)` as a quotient of natural numbers. -/
def scaled (num den : Nat) (e : Int) : Nat × Nat :=
  if 0 ≤ e then (num, den * Nat.pow 2 e.toNat) else (num * Nat.pow 2 (-e).toNat, den)

namespace Format

/-- The least exponent at which the integral part of `num / den` fits the precision. -/
def exponentOf (f : Format) (num den : Nat) : Int :=
  let guess := (Nat.log2 num : Int) - Nat.log2 den - f.precision
  let fits (e : Int) : Bool := let q := scaled num den e; q.1 / q.2 < Nat.pow 2 f.precision
  let e := if fits guess then guess else if fits (guess + 1) then guess + 1 else guess + 2
  max f.minExp e

/-- The value of the format nearest to `± num / den`, for a positive `den`. -/
def round (f : Format) (negative : Bool) (num den : Nat) : Floating :=
  if num = 0 then .finite negative 0 f.minExp
  else
    let e := f.exponentOf num den
    let q := scaled num den e
    let m := roundHalfEven q.1 q.2
    let me := if m = Nat.pow 2 f.precision then (Nat.pow 2 (f.precision - 1), e + 1) else (m, e)
    if f.maxExp < me.2 then .infinity negative else .finite negative me.1 me.2

/-- How many bits of the encoding hold the exponent. -/
def exponentBits (f : Format) : Nat := Nat.log2 (f.maxExp - f.minExp + 2).toNat + 1

/-- The sign bit of the encoding. -/
def signBit (f : Format) (negative : Bool) : Nat :=
  if negative then Nat.pow 2 (f.exponentBits + f.precision - 1) else 0

/-- The IEEE encoding of a finite or infinite value; NaN has no single one. -/
def bits (f : Format) : Floating → Option Nat
  | .nan => none
  | .infinity neg => some (f.signBit neg + (Nat.pow 2 f.exponentBits - 1) * Nat.pow 2 (f.precision - 1))
  | .finite neg m e =>
    if m < Nat.pow 2 (f.precision - 1) then some (f.signBit neg + m)
    else some (f.signBit neg + (e - f.minExp).toNat * Nat.pow 2 (f.precision - 1) + m)

end Format

end DatasetLint.Decimal
