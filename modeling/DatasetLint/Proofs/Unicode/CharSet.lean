import DatasetLint.Unicode.CharSet

/-!
# The runs of a set of characters

A set is kept as the code points at which membership changes, and a search by halves counts how many of them are
behind one. As long as the bounds increase, a character is in the set exactly if it is in one of the runs that
begin at every second bound.
-/

namespace DatasetLint.Unicode

/-! ## Searching by halves -/

/-- The search between `lo` and `hi` ends where the bounds pass `x`. -/
theorem countUpTo_spec {a : Array Nat} (h : a.toList.Pairwise (· < ·)) (x : Nat) {lo hi : Nat} (hle : lo ≤ hi)
    (hhi : hi ≤ a.size) : lo ≤ countUpTo a x lo hi ∧ countUpTo a x lo hi ≤ hi ∧
      (∀ i, lo ≤ i → i < countUpTo a x lo hi → a.getD i 0 ≤ x) ∧
      ∀ i, countUpTo a x lo hi ≤ i → i < hi → x < a.getD i 0 := by
  have hmono : ∀ i j, i ≤ j → j < a.size → a.getD i 0 ≤ a.getD j 0 := by
    intro i j hij hj
    rw [Array.getD_eq_getD_getElem?, Array.getD_eq_getD_getElem?, Array.getElem?_eq_getElem (by omega),
      Array.getElem?_eq_getElem hj]
    rcases Nat.lt_or_eq_of_le hij with hlt | rfl
    · exact Nat.le_of_lt (List.pairwise_iff_getElem.1 h i j (by simp; omega) (by simpa using hj) hlt)
    · exact Nat.le_refl _
  -- by bisection: the part that is left to search gets smaller, and the bounds beside it are settled
  induction hn : hi - lo using Nat.strongRecOn generalizing lo hi with
  | ind n ih =>
    unfold countUpTo
    split
    · rename_i hlt
      dsimp only
      split
      · -- the middle is not behind the number, so nothing before it is
        rename_i hmid
        obtain ⟨h1, h2, h3, h4⟩ := @ih (hi - ((lo + hi) / 2 + 1)) (by omega) ((lo + hi) / 2 + 1) hi (by omega) hhi rfl
        refine ⟨by omega, h2, ?_, h4⟩
        intro i hi1 hi2
        by_cases hi3 : (lo + hi) / 2 + 1 ≤ i
        · exact h3 i hi3 hi2
        · exact Nat.le_trans (hmono i ((lo + hi) / 2) (by omega) (by omega)) hmid
      · rename_i hmid
        obtain ⟨h1, h2, h3, h4⟩ := @ih ((lo + hi) / 2 - lo) (by omega) lo ((lo + hi) / 2) (by omega) (by omega) rfl
        refine ⟨h1, by omega, h3, ?_⟩
        intro i hi1 hi2
        by_cases hi3 : i < (lo + hi) / 2
        · exact h4 i hi1 hi3
        · exact Nat.lt_of_lt_of_le (Nat.not_le.1 hmid) (hmono ((lo + hi) / 2) i (by omega) (by omega))
    · exact ⟨Nat.le_refl _, hle, fun i hi1 hi2 => absurd hi2 (by omega), fun i hi1 hi2 => absurd hi2 (by omega)⟩

/-- The search counts the bounds up to `x`. -/
theorem countUpTo_eq {bs : List Nat} (h : bs.Pairwise (· < ·)) (x : Nat) :
    countUpTo bs.toArray x 0 bs.length = (bs.takeWhile (· ≤ x)).length := by
  obtain ⟨-, hle, hbelow, habove⟩ := countUpTo_spec (a := bs.toArray) h x (Nat.zero_le bs.length) (Nat.le_refl _)
  generalize countUpTo bs.toArray x 0 bs.length = k at hle hbelow habove
  have hget : ∀ i, (hi : i < bs.length) → bs.toArray.getD i 0 = bs[i] := by
    intro i hi
    rw [Array.getD_eq_getD_getElem?, List.getElem?_toArray, List.getElem?_eq_getElem hi]
    rfl
  -- up to there all bounds are taken, and the next one is not
  have htake : ∀ b ∈ bs.take k, decide (b ≤ x) = true := by
    intro b hb
    obtain ⟨i, hi, rfl⟩ := List.mem_take_iff_getElem.1 hb
    have := hbelow i (Nat.zero_le _) (by omega)
    rw [hget i (by omega)] at this
    exact decide_eq_true this
  have hdrop : (bs.drop k).takeWhile (· ≤ x) = [] := by
    cases hk : bs.drop k with
    | nil => rfl
    | cons b r =>
      have hlt : k < bs.length := by
        have := congrArg List.length hk
        rw [List.length_drop, List.length_cons] at this
        omega
      rw [List.drop_eq_getElem_cons hlt] at hk
      have := habove k (Nat.le_refl _) hlt
      rw [hget k hlt, (List.cons.inj hk).1] at this
      rw [List.takeWhile_cons, if_neg (by simpa using this)]
  rw [← List.take_append_drop k bs, List.takeWhile_append_of_pos htake, hdrop, List.append_nil, List.length_take]
  omega

namespace CharSet

/-! ## Runs -/

private theorem not_mem_pairs_of_lt {bs : List Nat} {x : Nat} (h : ∀ b ∈ bs, x < b) :
    ¬∃ r ∈ runs.pairs bs, r.1 ≤ x ∧ x ≤ r.2 := by
  rintro ⟨r, hr, hle, -⟩
  induction bs using runs.pairs.induct with
  | case1 a b bs ih =>
    rw [runs.pairs, List.mem_cons] at hr
    rcases hr with rfl | hr
    · have := h a (List.mem_cons_self ..)
      dsimp only at hle
      omega
    · exact ih (fun c hc => h c (List.mem_cons_of_mem _ (List.mem_cons_of_mem _ hc))) hr
  | case2 a =>
    have := h a (List.mem_cons_self ..)
    rw [runs.pairs, List.mem_singleton] at hr
    subst hr
    dsimp only at hle
    omega
  | case3 => cases hr

/-- The number of bounds up to the code point `x` is odd just in the runs. -/
theorem odd_takeWhile_iff {bs : List Nat} (h : bs.Pairwise (· < ·)) {x : Nat} (hx : x ≤ 0x10FFFF) :
    (bs.takeWhile (· ≤ x)).length % 2 = 1 ↔ ∃ r ∈ runs.pairs bs, r.1 ≤ x ∧ x ≤ r.2 := by
  induction bs using runs.pairs.induct with
  | case1 a b bs ih =>
    obtain ⟨ha, h⟩ := List.pairwise_cons.1 h
    obtain ⟨hb, h⟩ := List.pairwise_cons.1 h
    have hab : a < b := ha b (List.mem_cons_self ..)
    simp only [runs.pairs, List.mem_cons, exists_eq_or_imp]
    by_cases hbx : b ≤ x
    · -- both bounds are passed: an even number of them, and not the run between them
      rw [List.takeWhile_cons, if_pos (decide_eq_true (by omega)), List.takeWhile_cons, if_pos (decide_eq_true hbx),
        List.length_cons, List.length_cons, or_iff_right (by omega), ← ih h]
      omega
    · have hrest : ¬∃ r ∈ runs.pairs bs, r.1 ≤ x ∧ x ≤ r.2 :=
        not_mem_pairs_of_lt fun c hc => Nat.lt_trans (Nat.not_le.1 hbx) (hb c hc)
      rw [or_iff_left hrest, List.takeWhile_cons]
      by_cases hax : a ≤ x
      · rw [if_pos (decide_eq_true hax), List.takeWhile_cons, if_neg (by simpa using hbx)]
        simp
        omega
      · rw [if_neg (by simpa using hax)]
        simp
        omega
  | case2 a =>
    rw [runs.pairs, List.takeWhile_cons]
    by_cases hax : a ≤ x <;> simp [hax, hx]
  | case3 => simp [runs.pairs]

/-- The character `c` is in the set `s` if it is in one of its runs. -/
theorem contains_iff {s : CharSet} (h : s.bounds.toList.Pairwise (· < ·)) (c : Char) :
    s.contains c = true ↔ ∃ r ∈ s.runs, r.1 ≤ c.toNat ∧ c.toNat ≤ r.2 := by
  have hc : c.toNat ≤ 0x10FFFF := by
    have := c.valid
    rcases this with hlt | ⟨-, hlt⟩ <;> (change c.val.toNat ≤ _; omega)
  rw [contains, containsCode, beq_iff_eq, runs, ← odd_takeWhile_iff h hc, ← countUpTo_eq h]
  rfl

end CharSet

end DatasetLint.Unicode
