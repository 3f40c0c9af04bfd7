import DatasetLint.Decimal.Shortest
import Mathlib.Algebra.Order.Field.Power
import Mathlib.Data.Rat.Cast.Order
import Mathlib.Tactic.FieldSimp
import Mathlib.Tactic.Linarith
import Mathlib.Tactic.Positivity
import Mathlib.Tactic.Ring

/-!
# Rounding to the nearest value

The numbers around a value of a format form an interval, and the intervals of different values meet at most in
an end, which only one of them has. Rounding takes a number to the value in whose interval it is.
-/

namespace DatasetLint.Decimal

/-! ## Quotients as numbers -/

namespace Ratio

/-- The number that the quotient `a` stands for. -/
def value (a : Ratio) : ℚ := a.num / a.den

theorem den_dyadic_pos (n : Nat) (e : Int) : 0 < (dyadic n e).den := by
  rw [dyadic]
  split
  · exact Nat.one_pos
  · exact Nat.two_pow_pos _

theorem den_decimal_pos (n : Nat) (e : Int) : 0 < (decimal n e).den := by
  rw [decimal]
  split
  · exact Nat.one_pos
  · exact Nat.pow_pos (by decide)

/-- `n` times a power of the base `b`, as a quotient. -/
theorem value_scaled (n : Nat) (e : Int) {b : Nat} (hb : 0 < b) :
    value (if 0 ≤ e then ⟨n * b ^ e.toNat, 1⟩ else ⟨n, b ^ (-e).toNat⟩) = n * (b : ℚ) ^ e := by
  have hb : (b : ℚ) ≠ 0 := Nat.cast_ne_zero.2 hb.ne'
  split
  · rename_i he
    obtain ⟨k, rfl⟩ := Int.eq_ofNat_of_zero_le he
    simp [value]
  · rename_i he
    obtain ⟨k, rfl⟩ : ∃ k : Nat, e = -k := ⟨(-e).toNat, by omega⟩
    simp [value, div_eq_mul_inv]

theorem value_dyadic (n : Nat) (e : Int) : (dyadic n e).value = n * (2 : ℚ) ^ e :=
  value_scaled n e (by decide)

theorem value_decimal (n : Nat) (e : Int) : (decimal n e).value = n * (10 : ℚ) ^ e :=
  value_scaled n e (by decide)

variable {a b : Ratio} (ha : 0 < a.den) (hb : 0 < b.den)

include ha hb

theorem lt_iff : a.lt b = true ↔ a.value < b.value := by
  rw [lt, decide_eq_true_iff, value, value, div_lt_div_iff₀ (Nat.cast_pos.2 ha) (Nat.cast_pos.2 hb)]
  exact_mod_cast Iff.rfl

theorem le_iff : a.le b = true ↔ a.value ≤ b.value := by
  rw [le, decide_eq_true_iff, value, value, div_le_div_iff₀ (Nat.cast_pos.2 ha) (Nat.cast_pos.2 hb)]
  exact_mod_cast Iff.rfl

end Ratio

/-! ## Intervals of values -/

namespace Format

/-- `m * 2 ^ e` is a finite value of `f` in lowest position. -/
structure IsNormal (f : Format) (m : Nat) (e : Int) : Prop where
  lt : m < 2 ^ f.precision
  minExp_le : f.minExp ≤ e
  full : 2 ^ (f.precision - 1) ≤ m ∨ e = f.minExp

/-- The number `x` is in the interval of the value `m * 2 ^ e`, in quarters of its unit. -/
structure IsNear (f : Format) (m : Nat) (e : Int) (x : ℚ) : Prop where
  lower : ((4 * m - lowerGap f m e : Nat) : ℚ) * 2 ^ (e - 2) ≤ x
  upper : x ≤ ((4 * m + 2 : Nat) : ℚ) * 2 ^ (e - 2)
  /-- The ends belong to the interval of an even mantissa only. -/
  inside : m % 2 = 1 →
    ((4 * m - lowerGap f m e : Nat) : ℚ) * 2 ^ (e - 2) ≠ x ∧ x ≠ ((4 * m + 2 : Nat) : ℚ) * 2 ^ (e - 2)

theorem roundsTo_iff {f : Format} {m : Nat} {e : Int} {d : Ratio} (hd : 0 < d.den) :
    roundsTo f m e d = true ↔ f.IsNear m e d.value := by
  have hlo := Ratio.den_dyadic_pos (4 * m - lowerGap f m e) (e - 2)
  have hhi := Ratio.den_dyadic_pos (4 * m + 2) (e - 2)
  rw [roundsTo]
  split
  · rename_i heven
    rw [Bool.and_eq_true, Ratio.le_iff hlo hd, Ratio.le_iff hd hhi, Ratio.value_dyadic, Ratio.value_dyadic]
    exact ⟨fun h => ⟨h.1, h.2, fun hodd => by omega⟩, fun h => ⟨h.lower, h.upper⟩⟩
  · rename_i hodd
    rw [Bool.and_eq_true, Ratio.lt_iff hlo hd, Ratio.lt_iff hd hhi, Ratio.value_dyadic, Ratio.value_dyadic]
    refine ⟨fun h => ⟨h.1.le, h.2.le, fun _ => ⟨h.1.ne, h.2.ne⟩⟩, fun h => ?_⟩
    obtain ⟨hne, hne'⟩ := h.inside (by omega)
    exact ⟨lt_of_le_of_ne h.lower hne, lt_of_le_of_ne h.upper hne'⟩

theorem lowerGap_le (f : Format) (m : Nat) (e : Int) : lowerGap f m e ≤ 2 := by
  rw [lowerGap]
  split <;> decide

variable {f : Format} {m n : Nat} {e k : Int} {x : ℚ}

/-- Values of one position `e` are apart. -/
theorem IsNear.not_lt_of_same (hm : f.IsNear m e x) (hn : f.IsNear n e x) : ¬m < n := by
  intro hlt
  have hunit : (0 : ℚ) < 2 ^ (e - 2) := by positivity
  have hgap := lowerGap_le f n e
  have hmeet : (4 * n - lowerGap f n e : Nat) ≤ 4 * m + 2 := by
    have h := hn.lower.trans hm.upper
    exact_mod_cast le_of_mul_le_mul_right h hunit
  -- the intervals can only meet in one end, and that belongs to the even mantissa alone
  have hends : 4 * n - lowerGap f n e = 4 * m + 2 := by omega
  have hx : x = ((4 * m + 2 : Nat) : ℚ) * 2 ^ (e - 2) := le_antisymm hm.upper (hends ▸ hn.lower)
  rcases Nat.mod_two_eq_zero_or_one m with heven | hodd
  · exact (hn.inside (by omega)).1 (by rw [hends, hx])
  · exact (hm.inside hodd).2 hx

/-- The interval of a full mantissa `n` begins at most a quarter of a unit below the least one. -/
theorem le_lower_of_full (h : 2 ^ (f.precision - 1) ≤ n) (hk : f.minExp < k) :
    4 * 2 ^ (f.precision - 1) - 1 ≤ 4 * n - lowerGap f n k := by
  rw [lowerGap]
  split
  · omega
  · rename_i hgap
    have hne : n ≠ 2 ^ (f.precision - 1) := fun h => hgap ⟨h, hk⟩
    omega

/-- Values of the lower position `e` are below all of the higher position `k`. -/
theorem IsNear.not_lt_position (hp : 1 ≤ f.precision) (hm : f.IsNear m e x) (hmn : f.IsNormal m e)
    (hn : f.IsNear n k x) (hnn : f.IsNormal n k) : ¬e < k := by
  intro hlt
  obtain ⟨j, rfl⟩ : ∃ j : Nat, k = e + (j + 1) := ⟨(k - e - 1).toNat, by omega⟩
  have hunit : (0 : ℚ) < 2 ^ (e - 2) := by positivity
  have hscale : (2 : ℚ) ^ (e + (j + 1) - 2) = ((2 ^ (j + 1) : Nat) : ℚ) * 2 ^ (e - 2) := by
    rw [show e + (j + 1 : Int) - 2 = ((j + 1 : Nat) : Int) + (e - 2) by push_cast; omega, zpow_add₀ two_ne_zero,
      zpow_natCast, Nat.cast_pow]
    rfl
  have hhalf : 2 ^ f.precision = 2 * 2 ^ (f.precision - 1) := by
    rw [← Nat.pow_succ', Nat.succ_eq_add_one, Nat.sub_add_cancel hp]
  have hfull : 2 ^ (f.precision - 1) ≤ n := hnn.full.resolve_right (by have := hmn.minExp_le; omega)
  have hlow := le_lower_of_full (k := e + (j + 1)) hfull (by have := hmn.minExp_le; omega)
  have htwo : 2 ≤ 2 ^ (j + 1) := by
    rw [Nat.pow_succ]
    have := Nat.two_pow_pos j
    omega
  have hmeet : (4 * n - lowerGap f n (e + (j + 1))) * 2 ^ (j + 1) ≤ 4 * m + 2 := by
    have h := hn.lower.trans hm.upper
    rw [hscale, ← mul_assoc] at h
    exact_mod_cast le_of_mul_le_mul_right h hunit
  have hdouble : (4 * 2 ^ (f.precision - 1) - 1) * 2 ≤ 4 * m + 2 :=
    (Nat.mul_le_mul hlow htwo).trans hmeet
  -- only the last mantissa of the lower position reaches that far, and it is odd
  have hlast : m + 1 = 2 * 2 ^ (f.precision - 1) := by
    have := hmn.lt
    have := Nat.two_pow_pos (f.precision - 1)
    omega
  have hupper : x = ((4 * m + 2 : Nat) : ℚ) * 2 ^ (e - 2) := by
    refine le_antisymm hm.upper (le_trans ?_ hn.lower)
    rw [hscale, ← mul_assoc]
    refine mul_le_mul_of_nonneg_right ?_ hunit.le
    have h : 4 * m + 2 ≤ (4 * n - lowerGap f n (e + (j + 1))) * 2 ^ (j + 1) := by
      have := Nat.mul_le_mul hlow htwo
      omega
    exact_mod_cast h
  exact (hm.inside (by omega)).2 hupper

/-- No number `x` is in the intervals of two values. -/
theorem IsNear.unique (hp : 1 ≤ f.precision) (hm : f.IsNear m e x) (hmn : f.IsNormal m e)
    (hn : f.IsNear n k x) (hnn : f.IsNormal n k) : m = n ∧ e = k := by
  have hposition : e = k :=
    le_antisymm (not_lt.1 (hn.not_lt_position hp hnn hm hmn)) (not_lt.1 (hm.not_lt_position hp hmn hn hnn))
  subst hposition
  exact ⟨le_antisymm (not_lt.1 (hn.not_lt_of_same hm)) (not_lt.1 (hm.not_lt_of_same hn)), rfl⟩

/-! ## Rounding -/

/-- A quotient in units of `2 ^ e`. -/
theorem scaled_spec (num : Nat) {den : Nat} (hden : 0 < den) (e : Int) :
    0 < (scaled num den e).2 ∧ ((scaled num den e).1 : ℚ) / (scaled num den e).2 = num / den / 2 ^ e := by
  rw [scaled]
  split
  · rename_i he
    obtain ⟨k, rfl⟩ := Int.eq_ofNat_of_zero_le he
    refine ⟨Nat.mul_pos hden (Nat.two_pow_pos _), ?_⟩
    simp [div_div]
  · rename_i he
    obtain ⟨k, rfl⟩ : ∃ k : Nat, e = -k := ⟨(-e).toNat, by omega⟩
    refine ⟨hden, ?_⟩
    simp [mul_div_right_comm]

private theorem zpow_lt_iff_of_floor {num den : Nat} (hden : 0 < den) (e : Int) (p : Nat) :
    (scaled num den e).1 / (scaled num den e).2 < 2 ^ p ↔ (num : ℚ) / den < 2 ^ (p + e) := by
  obtain ⟨hpos, hvalue⟩ := scaled_spec num hden e
  have hunit : (0 : ℚ) < 2 ^ e := by positivity
  rw [Nat.div_lt_iff_lt_mul hpos, zpow_add₀ two_ne_zero, ← div_lt_iff₀ hunit, ← hvalue,
    div_lt_iff₀ (Nat.cast_pos.2 hpos), zpow_natCast]
  exact_mod_cast Iff.rfl

/-- The binary logarithms of `num` and `den` tell that of the quotient up to one. -/
theorem log2_bounds {num den : Nat} (hnum : num ≠ 0) (hden : 0 < den) :
    (2 : ℚ) ^ ((num.log2 : Int) - den.log2 - 1) < num / den ∧
      (num : ℚ) / den < 2 ^ ((num.log2 : Int) - den.log2 + 1) := by
  have hpos : (0 : ℚ) < den := Nat.cast_pos.2 hden
  have hlow : ((2 : ℚ) ^ num.log2) ≤ num := by exact_mod_cast Nat.log2_self_le hnum
  have hhigh : (num : ℚ) < 2 ^ (num.log2 + 1) := by exact_mod_cast Nat.lt_log2_self
  have hlow' : ((2 : ℚ) ^ den.log2) ≤ den := by exact_mod_cast Nat.log2_self_le hden.ne'
  have hhigh' : (den : ℚ) < 2 ^ (den.log2 + 1) := by exact_mod_cast Nat.lt_log2_self
  constructor
  · rw [lt_div_iff₀ hpos]
    calc (2 : ℚ) ^ ((num.log2 : Int) - den.log2 - 1) * den
        < 2 ^ ((num.log2 : Int) - den.log2 - 1) * 2 ^ (den.log2 + 1) := by gcongr
      _ = 2 ^ num.log2 := by
        rw [← zpow_natCast, ← zpow_add₀ two_ne_zero, ← zpow_natCast]
        congr 1
        push_cast
        omega
      _ ≤ num := hlow
  · rw [div_lt_iff₀ hpos]
    calc (num : ℚ) < 2 ^ (num.log2 + 1) := hhigh
      _ = 2 ^ ((num.log2 : Int) - den.log2 + 1) * 2 ^ den.log2 := by
        rw [← zpow_natCast, ← zpow_natCast, ← zpow_add₀ two_ne_zero]
        congr 1
        push_cast
        omega
      _ ≤ 2 ^ ((num.log2 : Int) - den.log2 + 1) * den := by gcongr

/-- `exponentOf` chooses the lowest position in which the number fits the precision. -/
theorem exponentOf_spec (f : Format) {num den : Nat} (hnum : num ≠ 0) (hden : 0 < den) :
    f.minExp ≤ f.exponentOf num den ∧ (num : ℚ) / den < 2 ^ (f.precision + f.exponentOf num den) ∧
      ((2 : ℚ) ^ ((f.precision : Int) + f.exponentOf num den - 1) ≤ num / den ∨
        f.exponentOf num den = f.minExp) := by
  obtain ⟨hlow, hhigh⟩ := log2_bounds hnum hden
  have hfirst : ∃ e : Int, f.exponentOf num den = max f.minExp e ∧ (num : ℚ) / den < 2 ^ (f.precision + e) ∧
      (2 : ℚ) ^ ((f.precision : Int) + e - 1) ≤ num / den := by
    rw [exponentOf]
    dsimp only
    -- the logarithms leave the guess or the position after it, so the third one is never taken
    simp only [decide_eq_true_eq, Nat.pow_eq, zpow_lt_iff_of_floor hden]
    split
    · rename_i hfits
      refine ⟨_, rfl, hfits, le_of_eq_of_le ?_ hlow.le⟩
      congr 1
      omega
    · rename_i hfits
      rw [if_pos (lt_of_lt_of_eq hhigh (by congr 1; omega))]
      refine ⟨_, rfl, lt_of_lt_of_eq hhigh (by congr 1; omega), le_of_eq_of_le ?_ (not_lt.1 hfits)⟩
      congr 1
      omega
  obtain ⟨e, he, hupper, hlower⟩ := hfirst
  rw [he]
  refine ⟨le_max_left .., lt_of_lt_of_le hupper ?_, ?_⟩
  · exact zpow_le_zpow_right₀ one_le_two (by omega)
  · rcases le_total e f.minExp with hle | hle
    · exact .inr (max_eq_left hle)
    · rw [max_eq_right hle]
      exact .inl hlower

end Format

/-- `y` is at most a half away from the whole number `r`; less than that if `r` is odd. -/
structure IsHalfAway (r : Nat) (y : ℚ) : Prop where
  lower : (r : ℚ) - 1 / 2 ≤ y
  upper : y ≤ r + 1 / 2
  inside : r % 2 = 1 → (r : ℚ) - 1 / 2 ≠ y ∧ y ≠ r + 1 / 2

private theorem isHalfAway_roundHalfEven (num : Nat) {den : Nat} (hden : 0 < den) :
    IsHalfAway (roundHalfEven num den) (num / den) := by
  have hpos : (0 : ℚ) < den := Nat.cast_pos.2 hden
  -- `s` is what stands behind the whole part
  obtain ⟨s, hs, hy⟩ : ∃ s : ℚ, s = (num % den : Nat) / den ∧ (num : ℚ) / den = (num / den : Nat) + s := by
    refine ⟨_, rfl, ?_⟩
    rw [eq_comm, ← mul_right_cancel_iff_of_pos hpos, add_mul, div_mul_cancel₀ _ hpos.ne', div_mul_cancel₀ _ hpos.ne']
    exact_mod_cast Nat.div_add_mod' num den
  have hnonneg : 0 ≤ s := hs ▸ by positivity
  have hone : s < 1 := by
    rw [hs, div_lt_one hpos]
    exact_mod_cast Nat.mod_lt num hden
  have hlt : den < 2 * (num % den) ↔ 1 / 2 < s := by
    rw [hs, div_lt_div_iff₀ two_pos hpos, one_mul, mul_comm]
    exact_mod_cast Iff.rfl
  have heq : 2 * (num % den) = den ↔ s = 1 / 2 := by
    rw [hs, div_eq_div_iff hpos.ne' two_ne_zero, one_mul, mul_comm]
    exact_mod_cast Iff.rfl
  rw [hy, roundHalfEven]
  simp only [Bool.or_eq_true, Bool.and_eq_true, decide_eq_true_eq, beq_iff_eq, hlt, heq]
  split
  · rename_i hup
    have hhalf : 1 / 2 ≤ s := by
      rcases hup with h | h
      · exact h.le
      · exact h.1.ge
    refine ⟨by push_cast; linarith, by push_cast; linarith, fun hodd => ⟨fun h => ?_, fun h => ?_⟩⟩
    · push_cast at h
      have hstrict : 1 / 2 < s := hup.resolve_right fun h => by omega
      linarith
    · push_cast at h
      linarith
  · rename_i hdown
    rw [not_or, not_and, not_lt] at hdown
    refine ⟨by linarith, by linarith [hdown.1], fun hodd => ⟨fun h => by linarith, fun h => ?_⟩⟩
    exact hdown.2 (by linarith) hodd

namespace Format

variable {f : Format} {m : Nat} {e : Int} {num den : Nat}

/-- Being near, for `y` in units of the position `e`. -/
theorem IsNear.of_scaled {y : ℚ} (hlower : ((4 * m - lowerGap f m e : Nat) : ℚ) ≤ 4 * y)
    (hupper : 4 * y ≤ 4 * m + 2)
    (hinside : m % 2 = 1 → ((4 * m - lowerGap f m e : Nat) : ℚ) ≠ 4 * y ∧ 4 * y ≠ 4 * m + 2) :
    f.IsNear m e (y * 2 ^ e) := by
  have hunit : (0 : ℚ) < 2 ^ (e - 2) := by positivity
  have hquarter : y * 2 ^ e = 4 * y * 2 ^ (e - 2) := by
    rw [zpow_sub₀ two_ne_zero, mul_div_assoc', eq_div_iff (by norm_num)]
    ring
  rw [hquarter]
  refine ⟨mul_le_mul_of_nonneg_right hlower hunit.le, ?_, fun hodd => ?_⟩
  · push_cast
    exact mul_le_mul_of_nonneg_right hupper hunit.le
  · obtain ⟨hne, hne'⟩ := hinside hodd
    push_cast
    exact ⟨fun h => hne (mul_right_cancel₀ hunit.ne' h), fun h => hne' (mul_right_cancel₀ hunit.ne' h)⟩

/-- A number `y` at most half a unit away from a value is near it. -/
theorem IsNear.of_half {y : ℚ} (hy : 0 ≤ y) (hgap : lowerGap f m e = 2) (h : IsHalfAway m y) :
    f.IsNear m e (y * 2 ^ e) := by
  have hupper := h.upper
  have hlower := h.lower
  rcases Nat.eq_zero_or_pos m with rfl | hpos
  · refine .of_scaled ?_ (by linarith) fun hodd => by omega
    rw [Nat.mul_zero, Nat.zero_sub, Nat.cast_zero]
    linarith
  · have hcast : ((4 * m - lowerGap f m e : Nat) : ℚ) = 4 * m - 2 := by
      rw [hgap, Nat.cast_sub (by omega)]
      push_cast
      rfl
    refine .of_scaled (by rw [hcast]; linarith) (by linarith) fun hodd => ?_
    obtain ⟨hne, hne'⟩ := h.inside hodd
    rw [hcast]
    exact ⟨fun h => hne (by linarith), fun h => hne' (by linarith)⟩

/-- The least full mantissa is also near to numbers `y` a quarter of a unit below. -/
theorem IsNear.of_full {y : ℚ} (hp : 2 ≤ f.precision) (he : f.minExp < e)
    (hlower : (2 : ℚ) ^ (f.precision - 1) - 1 / 4 ≤ y) (hupper : y ≤ 2 ^ (f.precision - 1) + 1 / 2) :
    f.IsNear (2 ^ (f.precision - 1)) e (y * 2 ^ e) := by
  have hgap : lowerGap f (2 ^ (f.precision - 1)) e = 1 := if_pos ⟨rfl, he⟩
  have hpos := Nat.two_pow_pos (f.precision - 1)
  have hcast : ((4 * 2 ^ (f.precision - 1) - 1 : Nat) : ℚ) = 4 * 2 ^ (f.precision - 1) - 1 := by
    rw [Nat.cast_sub (by omega)]
    push_cast
    rfl
  refine .of_scaled ?_ ?_ fun hodd => ?_
  · rw [hgap, hcast]
    linarith
  · push_cast
    linarith
  · obtain ⟨k, hk⟩ : ∃ k, f.precision - 1 = k + 1 := ⟨f.precision - 2, by omega⟩
    rw [hk, Nat.pow_succ, Nat.mul_mod_left] at hodd
    cases hodd

/-- A carry into the position `e + 1` still leaves the number near. -/
theorem IsNear.of_carry {y : ℚ} (hp : 2 ≤ f.precision) (he : f.minExp ≤ e) (hy : y < 2 ^ f.precision)
    (hhalf : (2 : ℚ) ^ f.precision - 1 / 2 ≤ y) : f.IsNear (2 ^ (f.precision - 1)) (e + 1) (y * 2 ^ e) := by
  have hdouble : (2 : ℚ) ^ f.precision = 2 * 2 ^ (f.precision - 1) := by
    rw [← pow_succ', Nat.sub_add_cancel (by omega)]
  have hshift : y * 2 ^ e = y / 2 * 2 ^ (e + 1) := by
    rw [zpow_add_one₀ two_ne_zero]
    ring
  rw [hshift]
  exact .of_full hp (by omega) (by linarith) (by linarith)

/-- A number `y` in units of its position, rounded to `r` without a carry. -/
theorem rounded_spec {y : ℚ} {r : Nat} (hp : 2 ≤ f.precision) (hmin : f.minExp ≤ e) (hy : 0 ≤ y)
    (hfull : (2 : ℚ) ^ (f.precision - 1) ≤ y ∨ e = f.minExp) (hr : r < 2 ^ f.precision) (hhalf : IsHalfAway r y) :
    f.IsNormal r e ∧ f.IsNear r e (y * 2 ^ e) := by
  refine ⟨⟨hr, hmin, hfull.imp_left fun h => ?_⟩, ?_⟩
  · have h : ((2 ^ (f.precision - 1) : Nat) : ℚ) < (r + 1 : Nat) := by
      push_cast
      linarith [hhalf.upper]
    exact Nat.lt_succ_iff.1 (Nat.cast_lt.1 h)
  · by_cases hgap : r = Nat.pow 2 (f.precision - 1) ∧ f.minExp < e
    · obtain ⟨rfl, he⟩ := hgap
      have hbelow : (2 : ℚ) ^ (f.precision - 1) ≤ y := hfull.resolve_right (by omega)
      refine .of_full hp he (by linarith) ?_
      exact_mod_cast hhalf.upper
    · exact .of_half hy (if_neg hgap) hhalf

/-- `round` takes `num / den` to a value in whose interval it is, unless that is beyond `maxExp`. -/
theorem round_spec (hp : 2 ≤ f.precision) (negative : Bool) (hnum : num ≠ 0) (hden : 0 < den) :
    ∃ m e, f.IsNormal m e ∧ f.IsNear m e (num / den) ∧
      f.round negative num den = if f.maxExp < e then .infinity negative else .finite negative m e := by
  obtain ⟨hmin, hupper, hlower⟩ := f.exponentOf_spec hnum hden
  obtain ⟨hpos, hvalue⟩ := scaled_spec num hden (f.exponentOf num den)
  have hhalf := isHalfAway_roundHalfEven (scaled num den (f.exponentOf num den)).1 hpos
  rw [hvalue] at hhalf
  rw [round, if_neg hnum]
  dsimp only
  -- from here on the number counts in units of the chosen position
  generalize f.exponentOf num den = e at *
  generalize roundHalfEven (scaled num den e).1 (scaled num den e).2 = r at *
  have hunit : (0 : ℚ) < 2 ^ e := by positivity
  have hx : (num : ℚ) / den = num / den / 2 ^ e * 2 ^ e := (div_mul_cancel₀ _ hunit.ne').symm
  have hy : (0 : ℚ) ≤ num / den / 2 ^ e := by positivity
  rw [zpow_add₀ two_ne_zero, ← div_lt_iff₀ hunit, zpow_natCast] at hupper
  have hfull : (2 : ℚ) ^ (f.precision - 1) ≤ num / den / 2 ^ e ∨ e = f.minExp := by
    refine hlower.imp_left fun h => ?_
    rw [le_div_iff₀ hunit, ← zpow_natCast, ← zpow_add₀ two_ne_zero]
    exact le_of_eq_of_le (by congr 1; omega) h
  rw [hx]
  generalize (num : ℚ) / den / 2 ^ e = y at *
  have hr : r ≤ 2 ^ f.precision := by
    have h : (r : ℚ) < (2 ^ f.precision + 1 : Nat) := by
      push_cast
      linarith [hhalf.lower]
    exact Nat.lt_succ_iff.1 (Nat.cast_lt.1 h)
  by_cases hcarry : r = Nat.pow 2 f.precision
  · rw [if_pos hcarry]
    have hlt : 2 ^ (f.precision - 1) < 2 ^ f.precision := Nat.pow_lt_pow_right (by decide) (by omega)
    have hcast : (r : ℚ) = 2 ^ f.precision := by
      rw [hcarry]
      exact_mod_cast rfl
    exact ⟨_, _, ⟨hlt, by omega, .inl le_rfl⟩, .of_carry hp hmin hupper (hcast ▸ hhalf.lower), rfl⟩
  · rw [if_neg hcarry]
    obtain ⟨hnormal, hnear⟩ := rounded_spec hp hmin hy hfull (lt_of_le_of_ne hr hcarry) hhalf
    exact ⟨_, _, hnormal, hnear, rfl⟩

/-- A number in the interval of the value `m * 2 ^ e`, which is in range, is rounded to it. -/
theorem round_eq_of_isNear (hp : 2 ≤ f.precision) (negative : Bool) (hnum : num ≠ 0) (hden : 0 < den)
    (hnormal : f.IsNormal m e) (hmax : e ≤ f.maxExp) (hnear : f.IsNear m e (num / den)) :
    f.round negative num den = .finite negative m e := by
  obtain ⟨n, k, hnormal', hnear', hround⟩ := round_spec hp negative hnum hden
  obtain ⟨rfl, rfl⟩ := hnear.unique (by omega) hnormal hnear' hnormal'
  rw [hround, if_neg (not_lt.2 hmax)]

/-- A value that `round` gives is one of the format. -/
theorem isNormal_of_round (hp : 2 ≤ f.precision) {negative negative' : Bool} (hden : 0 < den)
    (hrange : f.minExp ≤ f.maxExp) (h : f.round negative num den = .finite negative' m e) :
    f.IsNormal m e ∧ e ≤ f.maxExp := by
  by_cases hnum : num = 0
  · rw [round, if_pos hnum] at h
    cases h
    exact ⟨⟨Nat.two_pow_pos _, le_rfl, .inr rfl⟩, hrange⟩
  · obtain ⟨n, k, hnormal, -, hround⟩ := round_spec hp negative hnum hden
    rw [hround] at h
    split at h
    · cases h
    · rename_i hmax
      cases h
      exact ⟨hnormal, not_lt.1 hmax⟩

end Format

end DatasetLint.Decimal
