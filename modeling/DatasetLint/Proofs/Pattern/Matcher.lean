import DatasetLint.Proofs.Pattern.Captures
import Mathlib.Logic.Function.Iterate

/-!
# What the matcher finds

The matcher takes the places that can be reached before an expression to those that can be reached behind it. It loses
none and adds none, so it finds an expression in a text just if the expression matches a part of it.
-/

namespace DatasetLint.Pattern.Regex

/-! ## Sets of places -/

private theorem mem_merge {ps qs : List Nat} {j : Nat} : j ∈ merge ps qs ↔ j ∈ ps ∨ j ∈ qs := by
  induction ps, qs using merge.induct with
  | case1 qs =>
    rw [merge]
    simp
  | case2 ps hne =>
    rw [merge]
    · simp
    · exact hne
  | case3 p ps q qs h ih =>
    rw [merge, if_pos h, List.mem_cons, ih, List.mem_cons, List.mem_cons, or_assoc]
  | case4 p ps q qs h h' ih =>
    rw [merge, if_neg h, if_pos h', List.mem_cons, ih, List.mem_cons, List.mem_cons]
    exact or_left_comm
  | case5 p ps q qs h h' ih =>
    obtain rfl : p = q := Nat.le_antisymm (Nat.le_of_not_lt h') (Nat.le_of_not_lt h)
    rw [merge, if_neg h, if_neg h', List.mem_cons, ih, List.mem_cons, List.mem_cons]
    exact or_or_distrib_left

section

variable {step : List Nat → List Nat} {R : Nat → Nat → Prop} {n : Nat} {i j : Nat}

/-- `iterate` stops when nothing changes any more, which makes no difference to the result. -/
theorem iterate_eq (step : List Nat → List Nat) (n : Nat) (ps : List Nat) : iterate step n ps = step^[n] ps := by
  induction n generalizing ps with
  | zero => rfl
  | succ n ih =>
    rw [iterate]
    split
    · rename_i hfixed
      exact (Function.iterate_fixed hfixed (n + 1)).symm
    · rw [ih, Function.iterate_succ_apply]

private theorem reach_eq_iterate (step : List Nat → List Nat) (n : Nat) (ps : List Nat) :
    reach step n ps = iterate (fun qs => merge qs (step qs)) n ps := by
  induction n generalizing ps with
  | zero => rfl
  | succ n ih =>
    rw [reach, iterate]
    split
    · rfl
    · exact ih _

/-- The place `j` is reached from `i` in a number of steps of `R`. -/
def Times (R : Nat → Nat → Prop) : Nat → Nat → Nat → Prop
  | 0, i, j => i = j
  | n + 1, i, j => ∃ k, R i k ∧ Times R n k j

private theorem times_add {m : Nat} : Times R (m + n) i j ↔ ∃ k, Times R m i k ∧ Times R n k j := by
  induction m generalizing i with
  | zero =>
    rw [Nat.zero_add]
    exact ⟨fun h => ⟨i, rfl, h⟩, fun ⟨k, hk, h⟩ => hk ▸ h⟩
  | succ m ih =>
    rw [Nat.succ_add]
    constructor
    · rintro ⟨k, hk, h⟩
      obtain ⟨l, hl, h⟩ := ih.1 h
      exact ⟨l, ⟨k, hk, hl⟩, h⟩
    · rintro ⟨l, ⟨k, hk, hl⟩, h⟩
      exact ⟨k, hk, ih.2 ⟨l, hl, h⟩⟩

/-- Steps that may be left out are fewer steps. -/
theorem times_or_iff : Times (fun i j => i = j ∨ R i j) n i j ↔ ∃ k ≤ n, Times R k i j := by
  induction n generalizing i with
  | zero =>
    constructor
    · exact fun h => ⟨0, Nat.le_refl _, h⟩
    · rintro ⟨k, hk, h⟩
      rwa [Nat.le_zero.1 hk] at h
  | succ n ih =>
    constructor
    · rintro ⟨m, rfl | hm, h⟩
      · obtain ⟨k, hk, h⟩ := ih.1 h
        exact ⟨k, Nat.le_succ_of_le hk, h⟩
      · obtain ⟨k, hk, h⟩ := ih.1 h
        exact ⟨k + 1, Nat.succ_le_succ hk, m, hm, h⟩
    · rintro ⟨k, hk, h⟩
      cases k with
      | zero => exact ⟨i, .inl rfl, ih.2 ⟨0, Nat.zero_le _, h⟩⟩
      | succ k =>
        obtain ⟨m, hm, h⟩ := h
        exact ⟨m, .inr hm, ih.2 ⟨k, Nat.le_of_succ_le_succ hk, h⟩⟩

/-- Where no step goes back, there is a way with no more steps than places between `i` and `j`. -/
theorem Times.shorten {size : Nat} (hR : ∀ i j, R i j → i ≤ j ∧ j ≤ max i size) (h : Times R n i j) :
    (i ≤ j ∧ j ≤ max i size) ∧ ∃ k ≤ j - i, Times R k i j := by
  induction n generalizing i with
  | zero =>
    cases h
    exact ⟨by omega, 0, Nat.zero_le _, rfl⟩
  | succ n ih =>
    obtain ⟨m, hm, h⟩ := h
    obtain ⟨hmj, k, hk, h⟩ := ih h
    have him := hR i m hm
    -- a step that stays where it is can be left out
    rcases Nat.eq_or_lt_of_le him.1 with rfl | hlt
    · exact ⟨hmj, k, hk, h⟩
    · exact ⟨by omega, k + 1, by omega, m, hm, h⟩

private theorem mem_iterate (hstep : ∀ qs j, j ∈ step qs ↔ ∃ i ∈ qs, R i j) (ps : List Nat) :
    j ∈ iterate step n ps ↔ ∃ i ∈ ps, Times R n i j := by
  rw [iterate_eq]
  induction n generalizing ps with
  | zero => exact ⟨fun hj => ⟨j, hj, rfl⟩, fun ⟨i, hi, h⟩ => h ▸ hi⟩
  | succ n ih =>
    rw [Function.iterate_succ_apply, ih]
    constructor
    · rintro ⟨k, hk, h⟩
      obtain ⟨i, hi, hik⟩ := (hstep ps k).1 hk
      exact ⟨i, hi, k, hik, h⟩
    · rintro ⟨i, hi, k, hik, h⟩
      exact ⟨k, (hstep ps k).2 ⟨i, hi, hik⟩, h⟩

private theorem mem_reach (hstep : ∀ qs j, j ∈ step qs ↔ ∃ i ∈ qs, R i j) (ps : List Nat) :
    j ∈ reach step n ps ↔ ∃ i ∈ ps, ∃ k ≤ n, Times R k i j := by
  have hmerge : ∀ qs j, j ∈ merge qs (step qs) ↔ ∃ i ∈ qs, i = j ∨ R i j := by
    intro qs j
    rw [mem_merge, hstep]
    constructor
    · rintro (hj | ⟨i, hi, h⟩)
      · exact ⟨j, hj, .inl rfl⟩
      · exact ⟨i, hi, .inr h⟩
    · rintro ⟨i, hi, rfl | h⟩
      · exact .inl hi
      · exact .inr ⟨i, hi, h⟩
  rw [reach_eq_iterate, mem_iterate hmerge]
  simp only [times_or_iff]

private theorem mem_reach_iterate {m : Nat} (hstep : ∀ qs j, j ∈ step qs ↔ ∃ i ∈ qs, R i j) (ps : List Nat) :
    j ∈ reach step n (iterate step m ps) ↔ ∃ i ∈ ps, ∃ k ≤ n, Times R (m + k) i j := by
  rw [mem_reach hstep]
  simp only [mem_iterate hstep, times_add]
  constructor
  · rintro ⟨l, ⟨i, hi, h⟩, k, hk, h'⟩
    exact ⟨i, hi, k, hk, l, h, h'⟩
  · rintro ⟨i, hi, k, hk, l, h, h'⟩
    exact ⟨l, ⟨i, hi, h⟩, k, hk, h'⟩

end

/-! ## Matches taken apart -/

variable {t : Subject} {r : Regex} {i j : Nat}

theorem matches_empty_iff : Matches t .empty i j ↔ i = j := by
  constructor
  · rintro ⟨⟩
    rfl
  · rintro rfl
    exact .empty i

theorem matches_literal_iff {c : Char} : Matches t (.literal c) i j ↔ t[i]? = some c ∧ i + 1 = j := by
  constructor
  · rintro ⟨⟩
    exact ⟨‹_›, rfl⟩
  · rintro ⟨hc, rfl⟩
    exact .literal hc

theorem matches_set_iff {s : Unicode.CharSet} :
    Matches t (.set s) i j ↔ t[i]?.any s.contains = true ∧ i + 1 = j := by
  constructor
  · intro h
    cases h with
    | set hc hs => exact ⟨(Option.any_eq_true ..).2 ⟨_, hc, hs⟩, rfl⟩
  · rintro ⟨h, rfl⟩
    obtain ⟨c, hc, hs⟩ := (Option.any_eq_true ..).1 h
    exact .set hc hs

theorem matches_look_iff {l : Look} : Matches t (.look l) i j ↔ l.holds (leftOf t i) t[i]? = true ∧ i = j := by
  constructor
  · intro h
    cases h with
    | look hl => exact ⟨hl, rfl⟩
  · rintro ⟨hl, rfl⟩
    exact .look hl

theorem matches_capture_iff : Matches t (.capture r) i j ↔ Matches t r i j := by
  constructor
  · intro h
    cases h with
    | capture h => exact h
  · exact .capture

theorem matches_seq_iff {a b : Regex} : Matches t (.seq a b) i j ↔ ∃ k, Matches t a i k ∧ Matches t b k j := by
  constructor
  · intro h
    cases h with
    | seq h h' => exact ⟨_, h, h'⟩
  · rintro ⟨k, h, h'⟩
    exact .seq h h'

theorem matches_alt_iff {a b : Regex} : Matches t (.alt a b) i j ↔ Matches t a i j ∨ Matches t b i j := by
  constructor
  · intro h
    cases h with
    | altLeft h => exact .inl h
    | altRight h => exact .inr h
  · exact fun h => h.elim .altLeft .altRight

/-- A repeated expression `r` matches as often as its bounds `least` and `most` allow. -/
theorem matches_rep_iff {least : Nat} {most : Option Nat} : Matches t (.rep r least most) i j ↔
    ∃ n, least ≤ n ∧ (∀ m ∈ most, n ≤ m) ∧ Times (Matches t r) n i j := by
  have hnext : ∀ {most : Option Nat} {n : Nat}, most ≠ some 0 →
      ((∀ m ∈ most.map (· - 1), n ≤ m) ↔ ∀ m ∈ most, n + 1 ≤ m) := by
    intro most n hm
    cases most with
    | none => simp
    | some m =>
      have hm : m ≠ 0 := fun h => hm (congrArg some h)
      simp only [Option.map_some, Option.mem_some_iff, forall_eq']
      omega
  constructor
  · intro h
    generalize hrep : Regex.rep r least most = e at h
    -- along the match: each time takes one off both bounds
    induction h generalizing least most with
    | repDone =>
      cases hrep
      exact ⟨0, Nat.le_refl _, fun _ _ => Nat.zero_le _, rfl⟩
    | repMust h _ hm _ ih =>
      cases hrep
      obtain ⟨n, hleast, hmost, hn⟩ := ih rfl
      exact ⟨n + 1, Nat.succ_le_succ hleast, (hnext hm).1 hmost, _, h, hn⟩
    | repMay h _ hm _ ih =>
      cases hrep
      obtain ⟨n, -, hmost, hn⟩ := ih rfl
      exact ⟨n + 1, Nat.zero_le _, (hnext hm).1 hmost, _, h, hn⟩
    | empty | literal | set | look | capture | seq | altLeft | altRight => cases hrep
  · rintro ⟨n, hleast, hmost, hn⟩
    induction n generalizing least most i with
    | zero =>
      cases hn
      rw [Nat.le_zero.1 hleast]
      exact .repDone _
    | succ n ih =>
      obtain ⟨k, hk, hn⟩ := hn
      have hm : most ≠ some 0 := by
        rintro rfl
        exact absurd (hmost 0 rfl) (Nat.not_succ_le_zero n)
      cases least with
      | zero => exact .repMay hk (ih (Nat.zero_le _) ((hnext hm).2 hmost) hn) hm
      | succ least => exact .repMust hk (ih (Nat.le_of_succ_le_succ hleast) ((hnext hm).2 hmost) hn) hm

/-! ## The matcher -/

/-- No part is repeated at most less often than at least. -/
def Proper : Regex → Prop
  | .capture r => r.Proper
  | .seq a b | .alt a b => a.Proper ∧ b.Proper
  | .rep r least most => r.Proper ∧ ∀ m ∈ most, least ≤ m
  | _ => True

theorem proper_foldl_seq {es : List Regex} {e : Regex} (he : e.Proper) (hes : ∀ e ∈ es, e.Proper) :
    (es.foldl .seq e).Proper := by
  induction es generalizing e with
  | nil => exact he
  | cons f es ih =>
    obtain ⟨hf, hes⟩ := List.forall_mem_cons.1 hes
    exact ih ⟨he, hf⟩ hes

/-- `ends` is right about a repetition if it is right about what is repeated. -/
theorem mem_ends_rep {least : Nat} {most : Option Nat} {ps : List Nat} (hmost : ∀ m ∈ most, least ≤ m)
    (hstep : ∀ qs j, j ∈ ends t r qs ↔ ∃ i ∈ qs, Matches t r i j) :
    j ∈ ends t (.rep r least most) ps ↔ ∃ i ∈ ps, Matches t (.rep r least most) i j := by
  cases most with
  | none =>
    rw [ends, mem_reach_iterate hstep]
    simp only [matches_rep_iff]
    constructor
    · rintro ⟨i, hi, k, -, h⟩
      exact ⟨i, hi, least + k, Nat.le_add_right .., fun m hm => absurd hm (Option.not_mem_none m), h⟩
    · rintro ⟨i, hi, n, hleast, -, h⟩
      obtain ⟨n, rfl⟩ := Nat.exists_eq_add_of_le hleast
      obtain ⟨l, hl, h⟩ := times_add.1 h
      -- a way through the text needs no more steps than the text has places
      obtain ⟨hle, k, hk, h⟩ := h.shorten fun _ _ h => h.le
      exact ⟨i, hi, k, by omega, times_add.2 ⟨l, hl, h⟩⟩
  | some m =>
    have hm : least ≤ m := hmost m rfl
    rw [ends, mem_reach_iterate hstep]
    simp only [matches_rep_iff, Option.mem_some_iff, forall_eq']
    constructor
    · rintro ⟨i, hi, k, hk, h⟩
      exact ⟨i, hi, least + k, Nat.le_add_right .., by omega, h⟩
    · rintro ⟨i, hi, n, hleast, hmost, h⟩
      obtain ⟨n, rfl⟩ := Nat.exists_eq_add_of_le hleast
      exact ⟨i, hi, n, by omega, h⟩

/-- `ends` has the places at which a match ends that begins at one of the places `ps`. -/
theorem mem_ends {ps : List Nat} (hr : r.Proper) : j ∈ ends t r ps ↔ ∃ i ∈ ps, Matches t r i j := by
  induction r generalizing ps j with
  | empty => simp only [ends, matches_empty_iff, exists_eq_right]
  | literal c => simp only [ends, List.mem_map, List.mem_filter, beq_iff_eq, matches_literal_iff, and_assoc]
  | set s => simp only [ends, List.mem_map, List.mem_filter, matches_set_iff, and_assoc]
  | look l => simp only [ends, List.mem_filter, matches_look_iff, exists_eq_right_right]
  | capture r ih => simp only [ends, ih hr, matches_capture_iff]
  | seq a b iha ihb =>
    simp only [ends, iha hr.1, ihb hr.2, matches_seq_iff]
    constructor
    · rintro ⟨k, ⟨i, hi, h⟩, h'⟩
      exact ⟨i, hi, k, h, h'⟩
    · rintro ⟨i, hi, k, h, h'⟩
      exact ⟨k, ⟨i, hi, h⟩, h'⟩
  | alt a b iha ihb => simp only [ends, mem_merge, iha hr.1, ihb hr.2, matches_alt_iff, and_or_left, exists_or]
  | rep r least most ih => exact mem_ends_rep hr.2 fun _ _ => ih hr.1

/-- `r` is found in the text `s` just if it matches a part `p` of the text. -/
theorem isMatch_iff (hr : r.Proper) (s : String) :
    r.isMatch s = true ↔ ∃ l p q gs, s.toList = l ++ p ++ q ∧ Captures r l p q gs := by
  have hplaces : ∀ i, i ∈ List.range (s.toList.toArray.size + 1) ↔ i ≤ s.toList.length := by
    intro i
    rw [List.mem_range, Nat.lt_succ_iff, List.size_toArray]
  rw [← matches_iff, isMatch, Bool.not_eq_true', List.isEmpty_eq_false_iff_exists_mem]
  simp only [mem_ends hr, hplaces]
  constructor
  · rintro ⟨j, i, hi, h⟩
    exact ⟨i, j, hi, h⟩
  · rintro ⟨i, j, hi, h⟩
    exact ⟨j, i, hi, h⟩

end DatasetLint.Pattern.Regex
