import DatasetLint.Text.Pieces

/-!
# Cutting and joining

Cutting a text at its separators and joining pieces undo each other: no piece holds a separator, and pieces
that hold none are what the text joined of them is cut into. The same goes for lines, which have a separator behind
each of them.
-/

namespace DatasetLint.Text

variable {separates : Char → Bool}

/-- No piece `p` holds a separator. -/
theorem separates_of_mem_pieces {cs p : List Char} (hp : p ∈ pieces separates cs) {c : Char} (hc : c ∈ p) :
    separates c = false := by
  induction cs generalizing p with
  | nil =>
    rw [pieces, List.mem_singleton] at hp
    subst hp
    cases hc
  | cons d cs ih =>
    rw [pieces] at hp
    split at hp
    · rcases List.mem_cons.1 hp with rfl | hp
      · cases hc
      · exact ih hp hc
    · rename_i hd
      obtain ⟨q, qs, hpieces⟩ := List.exists_cons_of_ne_nil (pieces_ne_nil separates cs)
      rw [hpieces] at hp ih
      rcases List.mem_cons.1 hp with rfl | hp
      · rcases List.mem_cons.1 hc with rfl | hc
        · exact Bool.eq_false_iff.2 hd
        · exact ih (List.mem_cons_self ..) hc
      · exact ih (List.mem_cons_of_mem _ hp) hc

variable (separates) in
/-- A text is cut at each of its separators `c`. -/
theorem pieces_append_cons {c : Char} (hc : separates c = true) (as bs : List Char) :
    pieces separates (as ++ c :: bs) = pieces separates as ++ pieces separates bs := by
  induction as with
  | nil =>
    rw [List.nil_append, pieces.eq_2, if_pos hc]
    rfl
  | cons a as ih =>
    rw [List.cons_append, pieces, pieces, ih]
    split
    · rfl
    · obtain ⟨p, ps, hpieces⟩ := List.exists_cons_of_ne_nil (pieces_ne_nil separates as)
      rw [hpieces]
      rfl

theorem pieces_eq_singleton {p : List Char} (hp : ∀ c ∈ p, separates c = false) : pieces separates p = [p] := by
  induction p with
  | nil => rfl
  | cons d p ih =>
    have hd : separates d = false := hp d (List.mem_cons_self ..)
    rw [pieces, hd, ih fun e he => hp e (List.mem_cons_of_mem _ he)]
    rfl

theorem pieces_of_notMem {c : Char} {p : List Char} (hp : c ∉ p) : pieces (· == c) p = [p] :=
  pieces_eq_singleton fun _ hd => beq_eq_false_iff_ne.2 fun h => hp (h ▸ hd)

theorem pieces_cons_of_notMem {c : Char} {p : List Char} (hp : c ∉ p) (cs : List Char) :
    pieces (· == c) (p ++ c :: cs) = p :: pieces (· == c) cs := by
  rw [pieces_append_cons (· == c) (beq_self_eq_true c), pieces_of_notMem hp, List.singleton_append]

/-- The first piece of a text, up to the first `c`, is told by the text. -/
theorem eq_of_append_cons {c : Char} {as as' bs bs' : List Char} (has : c ∉ as) (has' : c ∉ as')
    (h : as ++ c :: bs = as' ++ c :: bs') : as = as' ∧ bs = bs' := by
  have hpieces := congrArg (pieces (· == c)) h
  rw [pieces_cons_of_notMem has, pieces_cons_of_notMem has'] at hpieces
  obtain ⟨rfl, -⟩ := List.cons.inj hpieces
  exact ⟨rfl, List.tail_eq_of_cons_eq (List.append_cancel_left h)⟩

/-- Pieces `ps` that hold no separator are what a text of them with one between each two is cut into. -/
theorem pieces_join_of_separates {c : Char} (hc : separates c = true) {ps : List (List Char)} (hne : ps ≠ [])
    (h : ∀ p ∈ ps, ∀ d ∈ p, separates d = false) : pieces separates (join [c] ps) = ps := by
  induction ps with
  | nil => exact absurd rfl hne
  | cons p ps ih =>
    have hp := h p (List.mem_cons_self ..)
    cases ps with
    | nil => exact pieces_eq_singleton hp
    | cons q qs =>
      have hcut := pieces_append_cons separates hc p (join [c] (q :: qs))
      rw [join, List.append_assoc, List.singleton_append, hcut, pieces_eq_singleton hp,
        ih (List.cons_ne_nil q qs) fun r hr => h r (List.mem_cons_of_mem _ hr)]
      · rfl
      · exact fun h => List.cons_ne_nil q qs h

/-- Pieces `ps` without the `c` between them are what a text of them is cut into. -/
theorem pieces_join {c : Char} {ps : List (List Char)} (hne : ps ≠ []) (h : ∀ p ∈ ps, c ∉ p) :
    pieces (· == c) (join [c] ps) = ps := by
  refine pieces_join_of_separates ?_ hne fun p hp d hd => beq_eq_false_iff_ne.2 fun hdc => h p hp (hdc ▸ hd)
  exact beq_self_eq_true c

/-- Pieces with another character `d` between them are the text with that one for its separators. -/
theorem join_pieces_eq_map (d : Char) (cs : List Char) :
    join [d] (pieces separates cs) = cs.map fun c => if separates c then d else c := by
  induction cs with
  | nil => rfl
  | cons c cs ih =>
    obtain ⟨p, ps, hpieces⟩ := List.exists_cons_of_ne_nil (pieces_ne_nil separates cs)
    rw [hpieces] at ih
    rw [pieces, List.map_cons, ← ih, hpieces]
    split
    · rfl
    · cases ps <;> rfl

/-- The first piece of `cs` ends before the first separator. -/
theorem head?_pieces (cs : List Char) : (pieces separates cs).head? = some (cs.takeWhile fun c => !separates c) := by
  induction cs with
  | nil => rfl
  | cons c cs ih =>
    rw [pieces, List.takeWhile_cons]
    cases separates c with
    | true => rfl
    | false =>
      obtain ⟨p, ps, hpieces⟩ := List.exists_cons_of_ne_nil (pieces_ne_nil separates cs)
      rw [hpieces, List.head?_cons, Option.some.injEq] at ih
      rw [hpieces, ← ih]
      rfl

private theorem join_eq_intercalate (separator : List Char) (ps : List (List Char)) :
    join separator ps = separator.intercalate ps := by
  induction ps with
  | nil => rfl
  | cons p ps ih =>
    cases ps with
    | nil => rw [join, List.intercalate_singleton]
    | cons q qs =>
      rw [List.intercalate_cons_cons, ← ih, join]
      exact fun h => List.cons_ne_nil q qs h

theorem intercalate_eq (separator : String) (ps : List String) :
    intercalate separator ps = separator.intercalate ps := by
  rw [← String.toList_inj, intercalate, String.toList_ofList, String.toList_intercalate, join_eq_intercalate]

/-- The lines `ls` with their ends are cut into the lines exactly if none of them holds the `c` that ends it.
Nothing is left behind the last of them. -/
theorem pieces_ended_eq_iff {c : Char} {ls : List (List Char)} :
    pieces (· == c) (ls.flatMap (· ++ [c])) = ls ++ [[]] ↔ ∀ l ∈ ls, c ∉ l := by
  constructor
  · intro h l hl hc
    have hpiece : l ∈ pieces (· == c) (ls.flatMap (· ++ [c])) := by
      rw [h]
      exact List.mem_append_left _ hl
    exact absurd (separates_of_mem_pieces hpiece hc) (by simp)
  · intro h
    induction ls with
    | nil => rfl
    | cons l ls ih =>
      obtain ⟨hl, hls⟩ := List.forall_mem_cons.1 h
      rw [List.flatMap_cons, List.append_assoc, List.singleton_append, pieces_cons_of_notMem hl, ih hls,
        List.cons_append]

/-- The `c` that ends lines is there once for each of them, and wherever it stands in one. -/
theorem count_ended (c : Char) (ls : List (List Char)) :
    (ls.flatMap (· ++ [c])).count c = ls.length + ls.flatten.count c := by
  induction ls with
  | nil => rfl
  | cons l ls ih =>
    rw [List.flatMap_cons, List.flatten_cons, List.count_append, List.count_append, List.count_append,
      List.count_singleton_self, ih, List.length_cons]
    omega

end DatasetLint.Text
