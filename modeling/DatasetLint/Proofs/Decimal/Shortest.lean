import DatasetLint.Proofs.Decimal.Integer
import DatasetLint.Proofs.Decimal.Rounding
import Mathlib.Algebra.Order.Floor.Semifield
import Mathlib.Data.Rat.Floor

/-!
# The fewest digits round to the value

Each grid gives at most a number in the interval of the value. The grid of eighteen digits always gives one,
because its points are closer to each other than the ends of the interval are to the value.
-/

namespace DatasetLint.Decimal

/-- The number that the digits `d` stand for. -/
def Digits.value (d : Digits) : ℚ := d.digits * 10 ^ d.exponent

private theorem stripZeros_spec (fuel : Nat) (d : Digits) (h : 0 < d.digits) :
    (stripZeros fuel d).value = d.value ∧ 0 < (stripZeros fuel d).digits := by
  induction fuel generalizing d with
  | zero => exact ⟨rfl, h⟩
  | succ fuel ih =>
    rw [stripZeros]
    split
    · rename_i hzero
      have hten : d.digits = 10 * (d.digits / 10) := by omega
      obtain ⟨hvalue, hpos⟩ := ih ⟨d.digits / 10, d.exponent + 1⟩ (by dsimp only; omega)
      refine ⟨?_, hpos⟩
      have hcast : (d.digits : ℚ) = 10 * (d.digits / 10 : Nat) := by exact_mod_cast hten
      rw [hvalue, Digits.value, Digits.value, zpow_add_one₀ (by norm_num), hcast]
      ring
    · exact ⟨rfl, h⟩

namespace Format

variable {f : Format} {tie : Tie} {m : Nat} {e k : Int} {d : Digits}

/-- How many times `10 ^ k` goes into the value `m * 2 ^ e`. -/
def below (m : Nat) (e k : Int) : Nat := ⌊(m : ℚ) * 2 ^ e / 10 ^ k⌋₊

private theorem below_eq (m : Nat) (e k : Int) :
    (Ratio.dyadic m e).num * (Ratio.decimal 1 k).den / ((Ratio.dyadic m e).den * (Ratio.decimal 1 k).num) =
      below m e k := by
  have hvalue : ((Ratio.dyadic m e).num : ℚ) / (Ratio.dyadic m e).den = m * 2 ^ e := Ratio.value_dyadic m e
  have hunit : ((Ratio.decimal 1 k).num : ℚ) / (Ratio.decimal 1 k).den = 10 ^ k := by
    have h := Ratio.value_decimal 1 k
    rwa [Nat.cast_one, one_mul] at h
  rw [below, ← hvalue, ← hunit, div_div_div_eq, ← Nat.cast_mul, ← Nat.cast_mul, Nat.floor_div_eq_div]

private theorem below_le (m : Nat) (e k : Int) : (below m e k : ℚ) * 10 ^ k ≤ m * 2 ^ e := by
  rw [← le_div_iff₀ (by positivity)]
  exact Nat.floor_le (by positivity)

private theorem lt_below_add_one (m : Nat) (e k : Int) : (m : ℚ) * 2 ^ e < (below m e k + 1) * 10 ^ k := by
  rw [← div_lt_iff₀ (by positivity)]
  exact Nat.lt_floor_add_one _

theorem roundsTo_decimal_iff (n : Nat) :
    roundsTo f m e (Ratio.decimal n k) = true ↔ f.IsNear m e (n * 10 ^ k) := by
  rw [roundsTo_iff (Ratio.den_decimal_pos n k), Ratio.value_decimal]

/-- What the grid of `10 ^ k` gives is in the interval of the value. -/
theorem gridPoint_spec (h : gridPoint f tie m e k = some d) : f.IsNear m e d.value ∧ 0 < d.digits := by
  rw [gridPoint, below_eq] at h
  split at h
  · rename_i hdown hup
    rw [Bool.and_eq_true, decide_eq_true_eq, roundsTo_decimal_iff] at hdown
    rw [roundsTo_decimal_iff] at hup
    split at h
    · cases h
      exact ⟨hup, Nat.succ_pos _⟩
    · cases h
      exact ⟨hdown.2, hdown.1⟩
  · rename_i hdown _
    rw [Bool.and_eq_true, decide_eq_true_eq, roundsTo_decimal_iff] at hdown
    cases h
    exact ⟨hdown.2, hdown.1⟩
  · rename_i _ hup
    rw [roundsTo_decimal_iff] at hup
    cases h
    exact ⟨hup, Nat.succ_pos _⟩
  · cases h

variable (tie) in
/-- A grid whose point next `below` the value is in the interval gives something. -/
theorem gridPoint_isSome (hpos : 0 < below m e k) (h : f.IsNear m e (below m e k * 10 ^ k)) :
    (gridPoint f tie m e k).isSome := by
  have hdown : (decide (0 < below m e k) && roundsTo f m e (Ratio.decimal (below m e k) k)) = true := by
    rw [Bool.and_eq_true, decide_eq_true_eq, roundsTo_decimal_iff]
    exact ⟨hpos, h⟩
  rw [gridPoint, below_eq, hdown]
  cases roundsTo f m e (Ratio.decimal (below m e k + 1) k) with
  | false => rfl
  | true =>
    dsimp only
    split <;> rfl

/-! ## The search -/

private theorem searchGrids_spec {lead : Int} {fuel n : Nat} (h : searchGrids f tie m e lead fuel n = some d) :
    f.IsNear m e d.value ∧ 0 < d.digits := by
  induction fuel generalizing n with
  | zero => cases h
  | succ fuel ih =>
    rw [searchGrids] at h
    split at h
    · rename_i g hg
      cases h
      obtain ⟨hnear, hpos⟩ := gridPoint_spec hg
      obtain ⟨hvalue, hpos'⟩ := stripZeros_spec 400 g hpos
      exact ⟨hvalue ▸ hnear, hpos'⟩
    · exact ih h

private theorem searchGrids_isSome {lead : Int} (fuel : Nat) {n j : Nat} (hn : n ≤ j) (hj : j < n + fuel)
    (h : (gridPoint f tie m e (lead - j)).isSome) : (searchGrids f tie m e lead fuel n).isSome := by
  induction fuel generalizing n with
  | zero => omega
  | succ fuel ih =>
    rw [searchGrids]
    split
    · rfl
    · rename_i hnone
      -- a grid that gives nothing is not the one that gives something
      refine ih (Nat.lt_of_le_of_ne hn ?_) (by omega)
      rintro rfl
      rw [hnone] at h
      cases h

/-- The leading digit of a value stands at its `leadingPower` or above. -/
theorem leadingPower_le (hm : m ≠ 0) (e : Int) : (10 : ℚ) ^ leadingPower m e ≤ m * 2 ^ e := by
  rw [leadingPower]
  dsimp only
  split
  · rename_i h
    rw [Ratio.le_iff (Ratio.den_decimal_pos _ _) (Ratio.den_dyadic_pos _ _), Ratio.value_decimal, Ratio.value_dyadic,
      Nat.cast_one, one_mul] at h
    exact h
  · have hden := Ratio.den_dyadic_pos m e
    have hvalue : ((Ratio.dyadic m e).num : ℚ) / (Ratio.dyadic m e).den = m * 2 ^ e := Ratio.value_dyadic m e
    have hnum : (Ratio.dyadic m e).num ≠ 0 := by
      intro h
      rw [h, Nat.cast_zero, zero_div] at hvalue
      have hpos : (0 : ℚ) < m * 2 ^ e := mul_pos (Nat.cast_pos.2 (Nat.pos_of_ne_zero hm)) (by positivity)
      linarith
    have hlow : ((10 : ℚ) ^ ((natDigits (Ratio.dyadic m e).num).length - 1)) ≤ (Ratio.dyadic m e).num := by
      exact_mod_cast (natDigits_bounds _).2 hnum
    have hhigh : ((Ratio.dyadic m e).den : ℚ) ≤ 10 ^ (natDigits (Ratio.dyadic m e).den).length := by
      exact_mod_cast (natDigits_bounds _).1.le
    have hlength : 0 < (natDigits (Ratio.dyadic m e).num).length := Nat.length_toDigits_pos
    rw [← hvalue, le_div_iff₀ (Nat.cast_pos.2 hden)]
    refine le_trans (mul_le_mul_of_nonneg_left hhigh (by positivity)) (le_of_eq_of_le ?_ hlow)
    rw [← zpow_natCast, ← zpow_natCast, ← zpow_add₀ (by norm_num)]
    congr 1
    rw [natDigits, natDigits] at *
    omega

/-- Eighteen digits have the `leadingPower` of a value as the first of theirs. -/
theorem leadingPower_split (m : Nat) (e : Int) :
    (10 : ℚ) ^ leadingPower m e = 10 ^ 17 * 10 ^ (leadingPower m e - 17) := by
  rw [← zpow_natCast, ← zpow_add₀ (by norm_num)]
  congr 1
  push_cast
  omega

/-- A value has a point of the grid of eighteen digits `below` it. -/
theorem below_pos (hm : m ≠ 0) (e : Int) : 0 < below m e (leadingPower m e - 17) := by
  have hlead := leadingPower_le hm e
  have hhigh := lt_below_add_one m e (leadingPower m e - 17)
  have hgrid : (0 : ℚ) < 10 ^ (leadingPower m e - 17) := by positivity
  rw [leadingPower_split] at hlead
  have h : ((0 + 1 : Nat) : ℚ) < (below m e (leadingPower m e - 17) + 1 : Nat) := by
    push_cast
    have hmul : (1 : ℚ) * 10 ^ (leadingPower m e - 17) <
        (below m e (leadingPower m e - 17) + 1) * 10 ^ (leadingPower m e - 17) := by nlinarith
    linarith [lt_of_mul_lt_mul_right hmul hgrid.le]
  exact Nat.lt_of_succ_lt_succ (Nat.cast_lt.1 h)

/-- The grid of eighteen digits is finer than a quarter of the unit `2 ^ e` of a value. -/
theorem four_mul_grid_lt (hp : 2 ^ (f.precision + 2) ≤ 10 ^ 17) (hm : m ≠ 0) (hlt : m < 2 ^ f.precision) (e : Int) :
    (4 : ℚ) * 10 ^ (leadingPower m e - 17) < 2 ^ e := by
  have hlead := leadingPower_le hm e
  rw [leadingPower_split] at hlead
  generalize (10 : ℚ) ^ (leadingPower m e - 17) = g at *
  have hunit : (0 : ℚ) < 2 ^ e := by positivity
  have hcast : (m : ℚ) < 2 ^ f.precision := by exact_mod_cast hlt
  have hp : (4 : ℚ) * 2 ^ f.precision ≤ 10 ^ 17 := by
    have h : ((2 ^ (f.precision + 2) : Nat) : ℚ) ≤ (10 ^ 17 : Nat) := Nat.cast_le.2 hp
    push_cast at h
    rw [pow_add] at h
    linarith
  -- eighteen digits leave at least two bits more than the precision
  have h : (10 : ℚ) ^ 17 * (4 * g) < 10 ^ 17 * 2 ^ e := by
    calc (10 : ℚ) ^ 17 * (4 * g) = (4 : ℚ) * (10 ^ 17 * g) := by ring
      _ ≤ (4 : ℚ) * (m * 2 ^ e) := by linarith
      _ < (4 : ℚ) * (2 ^ f.precision * 2 ^ e) := by nlinarith
      _ = (4 : ℚ) * 2 ^ f.precision * 2 ^ e := by ring
      _ ≤ 10 ^ 17 * 2 ^ e := by nlinarith
  exact lt_of_mul_lt_mul_left h (by positivity)

/-- A number `x` less than a quarter of the unit below a value is near it. -/
theorem IsNear.of_below {x : ℚ} (hm : m ≠ 0) (hle : x ≤ m * 2 ^ e) (hlt : m * 2 ^ e < x + 2 ^ e / 4) :
    f.IsNear m e x := by
  have hunit : (0 : ℚ) < 2 ^ e := by positivity
  have hx : x = x / 2 ^ e * 2 ^ e := (div_mul_cancel₀ _ hunit.ne').symm
  have hle : x / 2 ^ e ≤ m := (div_le_iff₀ hunit).2 hle
  have hgt : (m : ℚ) - 1 / 4 < x / 2 ^ e := (lt_div_iff₀ hunit).2 (by linarith)
  have hgap := lowerGap_le f m e
  have hgap' : 1 ≤ lowerGap f m e := by
    rw [lowerGap]
    split <;> decide
  have hsub : ((4 * m - lowerGap f m e : Nat) : ℚ) ≤ 4 * m - 1 := by
    rw [Nat.cast_sub (by omega), Nat.cast_mul]
    have h : (1 : ℚ) ≤ lowerGap f m e := by exact_mod_cast hgap'
    push_cast
    linarith
  rw [hx]
  exact .of_scaled (by linarith) (by linarith) fun _ => ⟨by intro h; linarith, by intro h; linarith⟩

/-- The point of the grid of eighteen digits next `below` a value is near it. -/
theorem isNear_below (hp : 2 ^ (f.precision + 2) ≤ 10 ^ 17) (hm : m ≠ 0) (hlt : m < 2 ^ f.precision) (e : Int) :
    f.IsNear m e (below m e (leadingPower m e - 17) * 10 ^ (leadingPower m e - 17)) := by
  have hfine := four_mul_grid_lt hp hm hlt e
  have hhigh := lt_below_add_one m e (leadingPower m e - 17)
  exact .of_below hm (below_le m e _) (by linarith)

/-- The `shortest` digits are in the interval of the value. -/
theorem shortest_spec (hp : 2 ^ (f.precision + 2) ≤ 10 ^ 17) (tie : Tie) (hm : m ≠ 0) (hlt : m < 2 ^ f.precision)
    (e : Int) : f.IsNear m e (f.shortest tie m e).value ∧ 0 < (f.shortest tie m e).digits := by
  have hfound : (searchGrids f tie m e (leadingPower m e) 20 0).isSome :=
    searchGrids_isSome 20 (Nat.zero_le 17) (by decide) (gridPoint_isSome tie (below_pos hm e) (isNear_below hp hm hlt e))
  obtain ⟨d, hd⟩ := Option.isSome_iff_exists.1 hfound
  rw [shortest, if_neg hm, hd, Option.getD_some]
  exact searchGrids_spec hd

end Format

end DatasetLint.Decimal
