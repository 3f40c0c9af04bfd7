import DatasetLint.Proofs.Problems.Table
import DatasetLint.Run

/-!
# Leaving out known problems

A list of entries takes exactly the problems out of a table that one of them is about, and leaves the others
in order. So lists of entries compose, what they are in order and how often does not matter, and more
entries never leave more problems.
-/

namespace DatasetLint.Suppression

/-- One of the entries `es` is about `resource` and accepts `message`. -/
def Known (es : List Suppression) (resource message : String) : Prop :=
  ∃ e ∈ es, e.resource = resource ∧ e.test.holds message = true

theorem any_suppresses_iff {es : List Suppression} {resource message : String} :
    es.any (·.suppresses resource message) = true ↔ Known es resource message := by
  simp [Known, suppresses]

instance (es : List Suppression) (resource message : String) : Decidable (Known es resource message) :=
  decidable_of_iff _ any_suppresses_iff

private theorem known_append {es fs : List Suppression} {resource message : String} :
    Known (es ++ fs) resource message ↔ Known es resource message ∨ Known fs resource message := by
  simp [Known, or_and_right, exists_or]

private theorem Known.mono {es fs : List Suppression} (h : es ⊆ fs) {resource message : String}
    (hknown : Known es resource message) : Known fs resource message := by
  obtain ⟨e, he, hholds⟩ := hknown
  exact ⟨e, h he, hholds⟩

/-- `apply es` filters by what is not `Known` to `es`. -/
theorem apply_eq_filter (es : List Suppression) (s : ProblemTable) :
    apply es s = s.filter fun r p => !decide (Known es r p.message) := by
  rw [apply]
  congr 1
  funext r p
  rw [← Bool.decide_coe (es.any (·.suppresses r p.message))]
  simp only [any_suppresses_iff]

theorem get_apply (es : List Suppression) (s : ProblemTable) (r : String) :
    (apply es s).get r = (s.get r).filter fun p => !decide (Known es r p.message) := by
  rw [apply_eq_filter, ProblemTable.get_filter]

private theorem mem_resources_apply {es : List Suppression} {s : ProblemTable} {r : String} :
    r ∈ (apply es s).resources ↔ ∃ p ∈ s.get r, ¬Known es r p.message := by
  simp [apply_eq_filter, ProblemTable.mem_resources_filter]

private theorem apply_apply (es fs : List Suppression) (s : ProblemTable) :
    apply fs (apply es s) = apply (es ++ fs) s := by
  rw [apply_eq_filter, apply_eq_filter, apply_eq_filter, ProblemTable.filter_filter]
  congr 1
  funext r p
  simp [known_append]

/-- `es` and `fs` with the same members leave out the same. -/
theorem apply_congr {es fs : List Suppression} (h : ∀ e, e ∈ es ↔ e ∈ fs) (s : ProblemTable) :
    apply es s = apply fs s := by
  rw [apply_eq_filter, apply_eq_filter]
  congr 1
  funext r p
  have hknown : Known es r p.message ↔ Known fs r p.message := by
    simp only [Known, h]
  rw [decide_eq_decide.2 hknown]

private theorem apply_push (es : List Suppression) (s : ProblemTable) (resource : String) (p : Problem) :
    apply es (s.push resource p) =
      if Known es resource p.message then apply es s else (apply es s).push resource p := by
  rw [apply_eq_filter, ProblemTable.filter_push, ← apply_eq_filter]
  by_cases h : Known es resource p.message
  · simp [h]
  · simp [h]

section More

variable {es fs : List Suppression} (h : es ⊆ fs) (s : ProblemTable)

include h

private theorem count_apply_le (v : Severity) : (apply fs s).count v ≤ (apply es s).count v := by
  rw [apply_eq_filter, apply_eq_filter]
  refine ProblemTable.count_filter_le (fun r p hp => ?_) s v
  simp only [Bool.not_eq_true', decide_eq_false_iff_not] at hp ⊢
  exact fun hknown => hp (hknown.mono h)

private theorem resourceCount_apply_le : (apply fs s).resourceCount ≤ (apply es s).resourceCount := by
  rw [apply_eq_filter, apply_eq_filter]
  refine ProblemTable.resourceCount_filter_le (fun r p hp => ?_) s
  simp only [Bool.not_eq_true', decide_eq_false_iff_not] at hp ⊢
  exact fun hknown => hp (hknown.mono h)

/-- A run that passes with `es` still passes with more entries `fs`. -/
theorem verdict_apply (hpassed : Linter.verdict (apply es s) = .passed) :
    Linter.verdict (apply fs s) = .passed := by
  have hcount : ∀ t : ProblemTable, Linter.verdict t = .passed ↔ t.count .error = 0 := by
    intro t
    rw [Linter.verdict, ProblemTable.count, List.countP_eq_zero]
    cases herror : t.anyError with
    | true =>
      obtain ⟨f, hf, hsev⟩ := List.any_eq_true.1 herror
      simp only [if_true, reduceCtorEq, false_iff]
      exact fun hnone => hnone f hf hsev
    | false => simpa using List.any_eq_false.1 herror
  rw [hcount] at hpassed ⊢
  have hle := count_apply_le h s .error
  omega

end More

/-- `apply es` takes the problems that are `Known` to `es` out of `s`, keeps the others in order and drops the
resources that keep none; the table that is left is the one in which what is kept is recorded anew. To apply `es`
and then `fs` is to apply `es ++ fs`, so that doing it again changes nothing, and neither the order of entries nor
repeating them does. A problem `p` may as well be recorded behind `apply es`, unless it is `Known`. With more
entries `fs` neither `count` nor `resourceCount` grows, and a `verdict` that was `.passed` stays so. -/
theorem apply_exact_filter (es : List Suppression) (s : ProblemTable) :
    (∀ r, (apply es s).get r = (s.get r).filter fun p => !decide (Known es r p.message)) ∧
    (∀ r, r ∈ (apply es s).resources ↔ ∃ p ∈ s.get r, ¬Known es r p.message) ∧
    apply es s =
      ProblemTable.empty.record (s.toList.filter fun f => !decide (Known es f.resource f.problem.message)) ∧
    (∀ fs, apply fs (apply es s) = apply (es ++ fs) s) ∧
    apply es (apply es s) = apply es s ∧
    (∀ fs, (∀ e, e ∈ es ↔ e ∈ fs) → apply es s = apply fs s) ∧
    (∀ r p, apply es (s.push r p) =
      if Known es r p.message then apply es s else (apply es s).push r p) ∧
    (∀ fs, es ⊆ fs → (∀ v, (apply fs s).count v ≤ (apply es s).count v) ∧
      (apply fs s).resourceCount ≤ (apply es s).resourceCount ∧
      (Linter.verdict (apply es s) = .passed → Linter.verdict (apply fs s) = .passed)) := by
  refine ⟨get_apply es s, fun r => mem_resources_apply, ?_, fun fs => apply_apply es fs s, ?_,
    fun fs hfs => apply_congr hfs s, apply_push es s, fun fs hfs => ?_⟩
  · rw [apply_eq_filter, ProblemTable.filter_eq_record]
  · rw [apply_apply]
    exact apply_congr (by simp) s
  · exact ⟨count_apply_le hfs s, resourceCount_apply_le hfs s, verdict_apply hfs s⟩

end DatasetLint.Suppression
