import DatasetLint.Pattern.Grammar
import DatasetLint.Proofs.Unicode.Case

/-!
# Reading a pattern in steps

A pattern is read character by character, and some steps can be taken at once. A character without a meaning of its
own becomes a literal; where case does not count, a letter becomes the set of itself and its capital.
-/

namespace DatasetLint.Pattern.Grammar

open Unicode

namespace State

/-- Some steps of reading. -/
def steps : Nat → State → Option State
  | 0, s => some s
  | n + 1, s =>
    match s.flags.skipSpace s.rest with
    | [] => none
    | c :: r => (s.step c r).bind (steps n)

theorem run_add {n : Nat} {s s' : State} (h : steps n s = some s') (m : Nat) : run (n + m) s = run m s' := by
  induction n generalizing s with
  | zero =>
    cases h
    rw [Nat.zero_add]
  | succ n ih =>
    rw [Nat.add_right_comm, run]
    rw [steps] at h
    cases hrest : s.flags.skipSpace s.rest with
    | nil =>
      rw [hrest] at h
      cases h
    | cons c r =>
      rw [hrest] at h
      obtain ⟨s1, h1, h⟩ := Option.bind_eq_some_iff.1 h
      dsimp only
      rw [h1, Option.bind_some, ih h]

/-- Characters `w` of which each is read as an expression of its own. -/
theorem steps_each {f : Flags} (hspaced : f.spaced = false) {expr : Char → Regex} {s : State} {w r : List Char}
    (hstep : ∀ c ∈ w, ∀ (s : State) (r : List Char), s.flags = f → s.step c r = some (s.push ⟨expr c, 0, false⟩ r))
    (hs : s.flags = f) (hrest : s.rest = w ++ r) : steps w.length s = some { s with
      rest := r
      group := { s.group with items := (w.map fun c => ⟨expr c, 0, false⟩).reverse ++ s.group.items } } := by
  induction w generalizing s with
  | nil =>
    rw [List.nil_append] at hrest
    subst hrest
    rfl
  | cons c w ih =>
    have hskip : s.flags.skipSpace s.rest = c :: (w ++ r) := by
      rw [hs, hrest, List.cons_append, Flags.skipSpace, hspaced]
      rfl
    obtain ⟨hc, hw⟩ := List.forall_mem_cons.1 hstep
    rw [List.length_cons, steps, hskip]
    dsimp only
    rw [hc s _ hs, Option.bind_some, ih (s := s.push ⟨expr c, 0, false⟩ (w ++ r)) hw hs rfl]
    simp [push]

/-! ## Letters in any case -/

/-- Blanks count, and the case of letters does not. -/
def anyCase : Flags := { Flags.default with ignoreCase := true }

private theorem literal_anyCase {c : Char} (hc : c ∈ pairedLetters) : literal anyCase c = .set (inAnyCase c) := by
  have hfolded : Bracket.folded anyCase (.single c) = inAnyCase c := closeUnderCase_single hc
  unfold literal
  dsimp only
  rw [hfolded]
  rfl

/-- A letter `c` of a pattern stands for itself and its capital. -/
theorem step_letter {s : State} {c : Char} (hs : s.flags = anyCase) (hc : c ∈ pairedLetters) (r : List Char) :
    s.step c r = some (s.push ⟨.set (inAnyCase c), 0, false⟩ r) := by
  unfold step
  dsimp only
  split
  case h_13 => rw [hs, literal_anyCase hc]
  all_goals exact absurd hc (by decide)

theorem steps_letters {s : State} {w r : List Char} (hs : s.flags = anyCase) (hrest : s.rest = w ++ r)
    (hw : ∀ c ∈ w, c ∈ pairedLetters) : steps w.length s = some { s with
      rest := r
      group := { s.group with items := (w.map fun c => ⟨.set (inAnyCase c), 0, false⟩).reverse ++ s.group.items } } :=
  steps_each rfl (fun c hc _ r hs => step_letter hs (hw c hc) r) hs hrest

/-! ## Literals -/

/-- A character `c` without a meaning of its own stands for itself. -/
theorem step_literal {s : State} {c : Char} (hs : s.flags = .default) (hc : Escape.isMeta c = false) (r : List Char) :
    s.step c r = some (s.push ⟨.literal c, 0, false⟩ r) := by
  unfold step
  dsimp only
  split
  case h_13 =>
    rw [hs]
    rfl
  all_goals exact absurd hc (by decide)

end State

/-- The expression of a text without any character that has a meaning. -/
def literals : List Char → Regex
  | [] => .empty
  | [c] => .literal c
  | w => (w.map .literal).foldl .seq .empty

private theorem foldl_max_eq_zero {ns : List Nat} (h : ∀ n ∈ ns, n = 0) : ns.foldl max 0 = 0 := by
  induction ns with
  | nil => rfl
  | cons n ns ih =>
    obtain ⟨rfl, hns⟩ := List.forall_mem_cons.1 h
    exact ih hns

/-- The literals of `w` nest once at most. -/
theorem joined_literals (w : List Char) (f : Flags) : ∃ d ≤ 1,
    (⟨false, (w.map fun c => ⟨.literal c, 0, false⟩).reverse, [], f⟩ : Group).joined = ⟨literals w, d, false⟩ := by
  rcases w with - | ⟨c, - | ⟨c', w⟩⟩
  · exact ⟨0, by decide, rfl⟩
  · exact ⟨0, by decide, rfl⟩
  · refine ⟨1, Nat.le_refl _, ?_⟩
    have hdepth : (((c :: c' :: w).map fun c => (⟨.literal c, 0, false⟩ : Item)).reverse.map (·.depth)).foldl max 0 = 0 := by
      refine foldl_max_eq_zero fun n hn => ?_
      obtain ⟨i, hi, rfl⟩ := List.mem_map.1 hn
      obtain ⟨d, -, rfl⟩ := List.mem_map.1 (List.mem_reverse.1 hi)
      rfl
    unfold Group.joined
    split
    · rename_i hnone
      exact absurd hnone (by simp)
    · rename_i i hone
      exact absurd (congrArg List.length hone) (by simp)
    · rw [hdepth, List.reverse_reverse, List.map_map]
      rfl

/-- A text `t` without any character that has a meaning is a pattern of `literals`. -/
theorem read_literals {t : String} (ht : ∀ c ∈ t.toList, Escape.isMeta c = false) :
    Grammar.read t = some (literals t.toList) := by
  let start : State := ⟨t.toList, .default, ⟨false, [], [], .default⟩, [], []⟩
  have hsteps := State.steps_each rfl (fun c hc _ r hs => State.step_literal hs (ht c hc) r) (s := start) rfl
    (List.append_nil t.toList).symm
  obtain ⟨d, hd, hjoined⟩ := joined_literals t.toList .default
  have hrun : State.run (t.toList.length + 1) start = some ⟨literals t.toList, d, false⟩ := by
    have hskip : Flags.default.skipSpace [] = [] := by rw [Flags.skipSpace]
    rw [State.run_add hsteps, ← hjoined, List.append_nil, State.run]
    dsimp only [start]
    rw [hskip]
    rfl
  have hdepth : d ≤ nestLimit := Nat.le_trans hd (by decide)
  rw [Grammar.read, hrun]
  exact if_pos hdepth

end DatasetLint.Pattern.Grammar
