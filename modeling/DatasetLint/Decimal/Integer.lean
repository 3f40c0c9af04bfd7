/-!
# Whole numbers of a bounded range

An integer is written as an optional sign and digits. Reading it looks at the digits from the left,
and the first thing that goes wrong is reported: a character that is no digit, or a value that
has left the range. `Range.read?` never wraps and never clamps.
-/

namespace DatasetLint.Decimal

/-- The integers from `lo` to `hi`. -/
structure Range where
  lo : Int
  hi : Int
deriving DecidableEq, Repr

namespace Range

/-- The two's complement integers of `n + 1` bits. -/
def signed (n : Nat) : Range := ⟨-Nat.pow 2 n, Nat.pow 2 n - 1⟩

/-- The natural numbers of `n` bits. -/
def unsigned (n : Nat) : Range := ⟨0, Nat.pow 2 n - 1⟩

/-- A range that holds negative numbers admits a minus sign. -/
def hasSign (r : Range) : Bool := r.lo < 0

end Range

/-- Why a text is no integer of a range. -/
inductive IntegerFault where
  | empty
  | invalidDigit
  | tooLarge
  | tooSmall
deriving DecidableEq, Repr

def IntegerFault.message : IntegerFault → String
  | .empty => "cannot parse integer from empty string"
  | .invalidDigit => "invalid digit found in string"
  | .tooLarge => "number too large to fit in target type"
  | .tooSmall => "number too small to fit in target type"

/-- The value of a digit in bases up to 36; small and capital letters count alike. -/
def digitValue (radix : Nat) (c : Char) : Option Nat :=
  let d :=
    if '0' ≤ c ∧ c ≤ '9' then some (c.toNat - '0'.toNat)
    else if 'a' ≤ c ∧ c ≤ 'z' then some (c.toNat - 'a'.toNat + 10)
    else if 'A' ≤ c ∧ c ≤ 'Z' then some (c.toNat - 'A'.toNat + 10)
    else none
  d.filter (· < radix)

/-- The digits of a number that grows away from zero by steps `acc ↦ radix · acc + sign · digit`
and must stay inside the range after each. -/
def readDigits (radix : Nat) (r : Range) (sign : Int) : Int → List Char → Except IntegerFault Int
  | acc, [] => .ok acc
  | acc, c :: cs =>
    match digitValue radix c with
    | none => .error .invalidDigit
    | some d =>
      let next := radix * acc + sign * d
      if r.hi < next then .error .tooLarge
      else if next < r.lo then .error .tooSmall
      else readDigits radix r sign next cs

/-- An integer of `r` in base `radix`: digits after a sign `+`, or `-` where the range has one. -/
def Range.read? (r : Range) (radix : Nat) : List Char → Except IntegerFault Int
  | [] => .error .empty
  | ['+'] => .error .invalidDigit
  | ['-'] => .error .invalidDigit
  | '+' :: cs => readDigits radix r 1 0 cs
  | '-' :: cs => if r.hasSign then readDigits radix r (-1) 0 cs else .error .invalidDigit
  | cs => readDigits radix r 1 0 cs

/-- The decimal digits of a natural number, without leading zeros. -/
def natDigits (n : Nat) : List Char := Nat.toDigits 10 n

/-- An integer in decimal: a minus sign if negative, then its digits. -/
def integerText (i : Int) : String :=
  String.ofList (if i < 0 then '-' :: natDigits i.natAbs else natDigits i.natAbs)

end DatasetLint.Decimal
