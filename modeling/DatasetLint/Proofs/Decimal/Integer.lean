import DatasetLint.Decimal.Integer
import DatasetLint.Decimal.Numeral
import Mathlib.Algebra.Group.Nat.Defs

/-!
# Decimal digits

The decimal digits of a number tell the number, are as many as its size asks for and begin with a zero only for zero.
-/

namespace DatasetLint.Decimal

theorem isDigit_of_mem_natDigits {n : Nat} {c : Char} (h : c ∈ natDigits n) : c.isDigit = true :=
  Nat.isDigit_of_mem_toDigits (by decide) (by decide) h

theorem notMem_natDigits {c : Char} (hc : c.isDigit = false) (n : Nat) : c ∉ natDigits n := fun h =>
  Bool.false_ne_true (hc.symm.trans (isDigit_of_mem_natDigits h))

theorem natDigits_ne_nil (n : Nat) : natDigits n ≠ [] := Nat.toDigits_ne_nil

theorem digitsValue_natDigits (n : Nat) : digitsValue (natDigits n) = n := Nat.ofDigitChars_ten_toDigits

theorem natDigits_injective : Function.Injective natDigits :=
  Function.LeftInverse.injective digitsValue_natDigits

/-- Numbers in messages are in decimal digits, the `natDigits`. -/
theorem toList_toString (n : Nat) : (toString n).toList = natDigits n := by
  rw [Nat.toString_eq_ofList_toDigits, String.toList_ofList, natDigits]

/-- The first digit of `n` stands where the powers of ten pass `n`. -/
theorem natDigits_bounds (n : Nat) :
    n < 10 ^ (natDigits n).length ∧ (n ≠ 0 → 10 ^ ((natDigits n).length - 1) ≤ n) := by
  have hpos : 0 < (natDigits n).length := Nat.length_toDigits_pos
  refine ⟨(Nat.length_toDigits_le_iff (by decide) hpos).1 (Nat.le_refl _), fun hn => Nat.not_lt.1 fun hlt => ?_⟩
  rcases Nat.eq_zero_or_pos ((natDigits n).length - 1) with hzero | hmore
  · rw [hzero] at hlt
    omega
  · have h : (natDigits n).length ≤ (natDigits n).length - 1 :=
      (Nat.length_toDigits_le_iff (by decide) hmore).2 hlt
    omega

/-- The digits of `n` begin with a zero only if `n` is zero. -/
theorem head?_natDigits_ne_zero {n : Nat} (h : n ≠ 0) : (natDigits n).head? ≠ some '0' := by
  rw [natDigits]
  induction n using Nat.strongRecOn with
  | ind n ih =>
    rw [Nat.toDigits_eq_if (by decide)]
    split
    · rename_i hlt
      have hdigits : ∀ k < 10, k ≠ 0 → k.digitChar ≠ '0' := by decide
      rw [List.head?_cons]
      exact fun heq => hdigits n hlt h (Option.some.inj heq)
    · rename_i hge
      obtain ⟨c, cs, hcs⟩ := List.exists_cons_of_ne_nil (Nat.toDigits_ne_nil (b := 10) (n := n / 10))
      have hhead := ih (n / 10) (by omega) (by omega)
      rw [hcs] at hhead ⊢
      exact hhead

theorem digitValue_ten (c : Char) :
    digitValue 10 c = if c.isDigit then some (c.toNat - '0'.toNat) else none := by
  have hle : ∀ a b : Char, a ≤ b ↔ a.toNat ≤ b.toNat := fun _ _ => Iff.rfl
  have h0 : '0'.toNat = 48 := rfl
  have h9 : '9'.toNat = 57 := rfl
  have ha : 'a'.toNat = 97 := rfl
  have hA : 'A'.toNat = 65 := rfl
  rw [digitValue]
  simp only [hle, Char.isDigit_iff_toNat, h0, h9, ha, hA]
  split
  · rw [Option.filter_some, if_pos (by rw [decide_eq_true_eq]; omega)]
  · split
    · rw [Option.filter_some, if_neg (by rw [decide_eq_true_eq]; omega)]
    · split
      · rw [Option.filter_some, if_neg (by rw [decide_eq_true_eq]; omega)]
      · rfl

theorem toList_integerText (i : Int) :
    (integerText i).toList = if i < 0 then '-' :: natDigits i.natAbs else natDigits i.natAbs := by
  rw [integerText, String.toList_ofList]

end DatasetLint.Decimal
