import DatasetLint.Decimal.Floating

/-!
# The fewest digits that read back

Among the decimals that a format rounds to a given value, the ones on the coarsest decimal grid
that has any, and of those the nearest to the value. The reals that round to a value form an
interval whose ends belong to it exactly if the mantissa is even. If any point of a grid lies in
it, then so does one of the two grid points around the value, so only those are tested.
-/

namespace DatasetLint.Decimal

/-- The number `digits · 10 ^ exponent`. -/
structure Digits where
  digits : Nat
  exponent : Int
deriving DecidableEq, Repr

/-- Which of two equally near decimals is taken. -/
inductive Tie where
  /-- The one with the even last digit. -/
  | toEven
  /-- The one farther from zero. -/
  | outward
deriving DecidableEq, Repr

/-- Whether a tie between `below` and the next number goes to the next one. -/
def Tie.takesNext : Tie → Nat → Bool
  | toEven, below => below % 2 == 1
  | outward, _ => true

/-- A quotient of natural numbers. -/
structure Ratio where
  num : Nat
  den : Nat

/-- `n · 2 ^ e` as a quotient. -/
def Ratio.dyadic (n : Nat) (e : Int) : Ratio :=
  if 0 ≤ e then ⟨n * Nat.pow 2 e.toNat, 1⟩ else ⟨n, Nat.pow 2 (-e).toNat⟩

/-- `n · 10 ^ e` as a quotient. -/
def Ratio.decimal (n : Nat) (e : Int) : Ratio :=
  if 0 ≤ e then ⟨n * Nat.pow 10 e.toNat, 1⟩ else ⟨n, Nat.pow 10 (-e).toNat⟩

def Ratio.lt (a b : Ratio) : Bool := a.num * b.den < b.num * a.den
def Ratio.le (a b : Ratio) : Bool := a.num * b.den ≤ b.num * a.den

/-- The distance of two quotients. -/
def Ratio.distance (a b : Ratio) : Ratio :=
  let x := a.num * b.den
  let y := b.num * a.den
  ⟨(x - y) + (y - x), a.den * b.den⟩

/-- The quarter units below a value at which its interval starts: half a unit, but half of that
where the format's spacing narrows just below. -/
def lowerGap (f : Format) (m : Nat) (e : Int) : Nat :=
  if m = Nat.pow 2 (f.precision - 1) ∧ f.minExp < e then 1 else 2

/-- Whether the format rounds `d` to `m · 2 ^ e`. -/
def roundsTo (f : Format) (m : Nat) (e : Int) (d : Ratio) : Bool :=
  let lo := Ratio.dyadic (4 * m - lowerGap f m e) (e - 2)
  let hi := Ratio.dyadic (4 * m + 2) (e - 2)
  if m % 2 = 0 then lo.le d && d.le hi else lo.lt d && d.lt hi

/-- The best point of the grid `10 ^ k` for `m · 2 ^ e`: of the two around it the one that reads
back, of two such the nearer, of two equally near the one that `tie` says. -/
def gridPoint (f : Format) (tie : Tie) (m : Nat) (e k : Int) : Option Digits :=
  let v := Ratio.dyadic m e
  let unit := Ratio.decimal 1 k
  let below := v.num * unit.den / (v.den * unit.num)
  let down := Ratio.decimal below k
  let up := Ratio.decimal (below + 1) k
  let toDown := v.distance down
  let toUp := v.distance up
  match 0 < below && roundsTo f m e down, roundsTo f m e up with
  | true, true =>
    if toUp.lt toDown || (toUp.le toDown && tie.takesNext below) then some ⟨below + 1, k⟩
    else some ⟨below, k⟩
  | true, false => some ⟨below, k⟩
  | false, true => some ⟨below + 1, k⟩
  | false, false => none

/-- Trailing zeros move into the exponent. -/
def stripZeros : Nat → Digits → Digits
  | 0, d => d
  | n + 1, d => if d.digits % 10 = 0 ∧ d.digits ≠ 0 then stripZeros n ⟨d.digits / 10, d.exponent + 1⟩ else d

/-- The power of ten of the leading digit of a positive `m · 2 ^ e`. -/
def leadingPower (m : Nat) (e : Int) : Int :=
  let v := Ratio.dyadic m e
  let digitCount (n : Nat) : Int := (Nat.toDigits 10 n).length
  let guess := digitCount v.num - digitCount v.den
  if (Ratio.decimal 1 guess).le v then guess else guess - 1

/-- The grids from the coarsest: one digit, two digits, and so on. -/
def searchGrids (f : Format) (tie : Tie) (m : Nat) (e : Int) (lead : Int) : Nat → Nat → Option Digits
  | 0, _ => none
  | fuel + 1, n =>
    match gridPoint f tie m e (lead - n) with
    | some d => some (stripZeros 400 d)
    | none => searchGrids f tie m e lead fuel (n + 1)

/-- The shortest decimal that the format rounds to `m · 2 ^ e`. Seventeen digits always suffice
for the two formats here; beyond that the value's own digits stand in. -/
def Format.shortest (f : Format) (tie : Tie) (m : Nat) (e : Int) : Digits :=
  if m = 0 then ⟨0, 0⟩
  else (searchGrids f tie m e (leadingPower m e) 20 0).getD ⟨m, e⟩

end DatasetLint.Decimal
