import DatasetLint.Text.Blank

/-!
# Runs at the ends of a text

What is taken from the front of a list while a test holds ends where the test first fails. So a run with something
else behind it is told from what follows, and a text without the blanks at its ends is found between them.
-/

namespace DatasetLint.Text

variable {α : Type} {p : α → Bool}

/-! ## Runs -/

/-- A run `as` of `p` is told from what follows it, if that is nothing or begins otherwise. -/
theorem span_append {as bs : List α} (has : ∀ c ∈ as, p c = true) (hbs : ∀ c ∈ bs.head?, p c = false) :
    (as ++ bs).takeWhile p = as ∧ (as ++ bs).dropWhile p = bs := by
  have hstop : bs.takeWhile p = [] ∧ bs.dropWhile p = bs := by
    cases bs with
    | nil => exact ⟨rfl, rfl⟩
    | cons c cs =>
      have hc : p c = false := hbs c rfl
      rw [List.takeWhile_cons, List.dropWhile_cons, hc]
      exact ⟨rfl, rfl⟩
  rw [List.takeWhile_append_of_pos has, List.dropWhile_append_of_pos has, hstop.1, hstop.2, List.append_nil]
  exact ⟨rfl, rfl⟩

theorem span_append_cons {as bs : List α} {c : α} (has : ∀ c ∈ as, p c = true) (hc : p c = false) :
    (as ++ c :: bs).takeWhile p = as ∧ (as ++ c :: bs).dropWhile p = c :: bs :=
  span_append has fun _ hd => Option.some.inj hd ▸ hc

variable (p) in
/-- The list `cs` is a run of `p` and what follows it. -/
theorem exists_span (cs : List α) : ∃ as bs, cs = as ++ bs ∧ cs.takeWhile p = as ∧ cs.dropWhile p = bs ∧
    (∀ c ∈ as, p c = true) ∧ ∀ c ∈ bs.head?, p c = false := by
  refine ⟨_, _, List.takeWhile_append_dropWhile.symm, rfl, rfl, ?_, ?_⟩
  · intro c hc
    exact List.all_eq_true.1 List.all_takeWhile c hc
  · intro c hc
    have hstop := List.head?_dropWhile_not p cs
    rw [hc] at hstop
    simpa using hstop

/-- What follows a run is what is left when as many members are left out. -/
theorem drop_length_takeWhile (cs : List α) : cs.drop (cs.takeWhile p).length = cs.dropWhile p := by
  have hsplit := congrArg (List.drop (cs.takeWhile p).length) (List.takeWhile_append_dropWhile (p := p) (l := cs))
  rw [List.drop_left] at hsplit
  exact hsplit.symm

/-! ## Trimming -/

private theorem dropWhile_reverse_append {as bs : List α} (hbs : ∀ c ∈ bs, p c = true)
    (has : ∀ c ∈ as.getLast?, p c = false) : ((as ++ bs).reverse.dropWhile p).reverse = as := by
  have hspan : (bs.reverse ++ as.reverse).takeWhile p = bs.reverse ∧ (bs.reverse ++ as.reverse).dropWhile p = as.reverse :=
    span_append (fun c hc => hbs c (List.mem_reverse.1 hc)) (by simpa using has)
  rw [List.reverse_append, hspan.2, List.reverse_reverse]

/-- A text `core` that neither begins nor ends with a blank is what is left when it is trimmed, whatever blanks are
around. -/
theorem trim_append {before core after : List Char} (hbefore : ∀ c ∈ before, isBlank c = true)
    (hafter : ∀ c ∈ after, isBlank c = true) (hfirst : ∀ c ∈ core.head?, isBlank c = false)
    (hlast : ∀ c ∈ core.getLast?, isBlank c = false) : trim (before ++ core ++ after) = core := by
  cases core with
  | nil =>
    -- all of the text is blank
    have hall : ∀ c ∈ before ++ after, isBlank c = true := fun c hc =>
      (List.mem_append.1 hc).elim (hbefore c) (hafter c)
    have hspan := @span_append _ isBlank (before ++ after) [] hall nofun
    rw [List.append_nil] at hspan
    rw [trim, List.append_nil, hspan.2]
    rfl
  | cons d core =>
    have hspan := @span_append_cons _ isBlank before (core ++ after) d hbefore (hfirst d rfl)
    rw [trim, trimEnd, List.append_assoc, List.cons_append, hspan.2, ← List.cons_append, dropWhile_reverse_append hafter hlast]

/-- `trim` takes blanks away from `cs` on both sides. -/
theorem exists_trim (cs : List Char) : ∃ before after, cs = before ++ trim cs ++ after ∧
    (∀ c ∈ before, isBlank c = true) ∧ (∀ c ∈ after, isBlank c = true) := by
  obtain ⟨before, rest, hcs, -, hdrop, hbefore, -⟩ := exists_span isBlank cs
  obtain ⟨after, core, hrest, -, hdrop', hafter, -⟩ := exists_span isBlank rest.reverse
  refine ⟨before, after.reverse, ?_, hbefore, fun c hc => hafter c (List.mem_reverse.1 hc)⟩
  rw [trim, trimEnd, hdrop, hdrop', List.append_assoc, ← List.reverse_append, ← hrest, List.reverse_reverse, hcs]

end DatasetLint.Text
