import DatasetLint.Proofs.Yaml.Plain

/-!
# Block scalars

A text of several lines that is written as a literal block reads back as itself: the indentation of its
lines is told or found again, and its header says how many of the line ends behind it belong to it.
-/

namespace DatasetLint.Yaml

open Writer Token

/-! ## Line ends at the end -/

/-- How many line ends are at the end of a text, `k` of them before it. -/
def finalBreaks (k : Nat) : List Char → Nat
  | [] => k
  | c :: cs => finalBreaks (if isBreak c then k + 1 else 0) cs

/-- What the header says of the line ends at the end: one of them ends the last line. -/
def chompingOf : Nat → Chomping
  | 0 => .strip
  | 1 => .clip
  | _ => .keep

/-- What a header writes for it. -/
def chompingText : Chomping → List Char
  | .strip => ['-']
  | .clip => []
  | .keep => ['+']

theorem finalBreaks_append (k : Nat) (cs ds : List Char) :
    finalBreaks k (cs ++ ds) = finalBreaks (finalBreaks k cs) ds := by
  induction cs generalizing k with
  | nil => rfl
  | cons c cs ih => exact ih _

/-- At the start of a text a line end ends no line, so the first one counts as the second. -/
theorem chompHint_eq {cs : List Char} (hne : cs ≠ []) (hprint : Printed cs) :
    chompHint cs = chompingText (chompingOf (finalBreaks 1 cs)) := by
  obtain ⟨ds, c, rfl⟩ : ∃ ds c, cs = ds ++ [c] :=
    ⟨cs.dropLast, cs.getLast hne, (List.dropLast_concat_getLast hne).symm⟩
  rw [printed_append, printed_cons] at hprint
  rw [chompHint, List.reverse_append, List.reverse_singleton, List.singleton_append, finalBreaks_append]
  simp only [finalBreaks, endsLine_eq_isBreak hprint.2.1]
  cases hc : isBreak c with
  | false => rfl
  | true =>
    simp only [Bool.not_true, Bool.false_eq_true, if_false, if_true]
    -- a line end alone ends no line, so it is kept like a second one
    by_cases hds : ds = []
    · subst hds
      rfl
    · obtain ⟨es, d, rfl⟩ : ∃ es d, ds = es ++ [d] :=
        ⟨ds.dropLast, ds.getLast hds, (List.dropLast_concat_getLast hds).symm⟩
      rw [printed_append, printed_cons] at hprint
      rw [List.reverse_append, List.reverse_singleton, List.singleton_append, List.head?_cons, Option.all_some,
        finalBreaks_append]
      simp only [finalBreaks, endsLine_eq_isBreak hprint.1.2.1]
      cases isBreak d with
      | false => rfl
      | true => rfl

/-- A text with `k` line ends at its end is followed by one if `k` is zero. -/
def blockEnding (k : Nat) : List Char := if k = 0 then ['\n'] else []

/-! ## Lines -/

private theorem tail_chompingOf (lead : Option Char) (trail : List Char) :
    (chompingOf (trail.length + 1)).tail lead trail = lead.toList ++ trail := by
  cases trail with
  | nil => simp [chompingOf, Chomping.tail]
  | cons c trail => simp [chompingOf, Chomping.tail]

section Lines

variable {ch : Chomping} {i : Nat} {f b : Bool} {lead : Option Char} {trail : List Char}

/-- Indentation of a line is passed over. -/
theorem blockLines_spaces {n : Nat} (m : Mark) (hn : m.column + n ≤ i) (x : List Char) :
    blockLines true ch i f (.between b lead trail) (marked m (spaces n ++ x)) =
      blockLines true ch i f (.between b lead trail) (marked (m.through (spaces n)) x) := by
  induction n generalizing m with
  | zero => rfl
  | succ n ih =>
    have hlt : m.column < i := by omega
    have hcolumn : (m.past ' ').column = m.column + 1 := rfl
    rw [spaces, List.replicate_succ, List.cons_append, marked_cons, blockLines]
    simp only [beq_self_eq_true, hlt, decide_true, Bool.and_self, if_true]
    exact ih _ (by omega)

/-- The text `next`, which is less deep than the lines of a block, ends it. -/
theorem blockLines_end {next : List Char} (hnext : AtToken next) {m : Mark} (hm : m.column < i) :
    blockLines true ch i f (.between b lead trail) (marked m next) =
      some (ch.tail lead trail, marked m next) := by
  cases next with
  | nil => rfl
  | cons c next =>
    obtain ⟨hgap, hbreak, -⟩ := atToken_cons.1 hnext
    simp only [isGap, Bool.or_eq_false_iff] at hgap
    rw [marked_cons, blockLines, hgap.1, hgap.2, hbreak, beq_eq_false_iff_ne.2 (Nat.ne_of_lt hm)]
    rfl

private theorem blockLines_between_break {c : Char} (hc : isBreak c = true) (m : Mark) (r : Chars) :
    blockLines true ch i f (.between b lead trail) ((c, m) :: r) =
      blockLines true ch i f (.between b lead (trail ++ [c])) r := by
  have hspace : (c == ' ') = false := beq_eq_false_iff_ne.2 (ne_of_class hc rfl)
  have htab : (c == '\t') = false := beq_eq_false_iff_ne.2 (ne_of_class hc rfl)
  rw [blockLines, hspace, htab, hc]
  rfl

/-- The first character `c` of a line. -/
theorem blockLines_between_char {c : Char} (hprint : isPrintable c = true) (hc : isBreak c = false) {m : Mark}
    (hm : m.column = i) (r : Chars) :
    blockLines true ch i f (.between b lead trail) ((c, m) :: r) =
      (blockLines true ch i false (.line (isGap c)) r).map
        fun (t, s) => (lead.toList ++ trail ++ c :: t, s) := by
  have htab : (c == '\t') = false := beq_eq_false_iff_ne.2 (ne_of_class hprint rfl)
  rw [blockLines, htab, hc]
  simp [hm, blockJoin]

private theorem blockLines_line_break {c : Char} (hc : isBreak c = true) (m : Mark) (r : Chars) :
    blockLines true ch i f (.line b) ((c, m) :: r) = blockLines true ch i false (.between b (some c) []) r := by
  rw [blockLines, hc]
  rfl

private theorem blockLines_line_char {c : Char} (hc : isBreak c = false) (m : Mark) (r : Chars) :
    blockLines true ch i f (.line b) ((c, m) :: r) =
      (blockLines true ch i false (.line b) r).map fun (t, s) => (c :: t, s) := by
  rw [blockLines, hc]
  rfl

end Lines

section Body

variable {i n : Nat} {c : Char} {cs next : List Char}

/-- Within a line the rest `cs` of a text reads back, with the line end that is added to it. -/
def ReadsInLine (i n : Nat) (next cs : List Char) : Prop :=
  ∀ b f m, blockLines true (chompingOf (finalBreaks 0 cs)) i f (.line b)
      (marked m (blockBody i false cs ++ (blockEnding (finalBreaks 0 cs) ++ spaces n ++ next))) =
    some (cs, marked (m.through (blockBody i false cs ++ (blockEnding (finalBreaks 0 cs) ++ spaces n))) next)

/-- Between two lines `cs` does. The line ends `trail` since the last line are counted along, so that at the end the
chomping is known to be right. -/
def ReadsBetweenLines (i n : Nat) (next cs : List Char) : Prop :=
  ∀ b lead trail f m, m.column = 0 →
    blockLines true (chompingOf (finalBreaks (trail.length + 1) cs)) i f (.between b lead trail)
      (marked m (blockBody i true cs ++ (blockEnding (finalBreaks (trail.length + 1) cs) ++ spaces n ++ next))) =
    some (lead.toList ++ trail ++ cs, marked (m.through
      (blockBody i true cs ++ (blockEnding (finalBreaks (trail.length + 1) cs) ++ spaces n))) next)

private theorem column_through_spaces_lt (hn : n < i) {m : Mark} (hm : m.column = 0) :
    (m.through (spaces n)).column < i := by
  rw [Mark.through_spaces, hm, Nat.zero_add]
  exact hn

/-- A text that ends within a line is followed by a line end, which is stripped again. -/
theorem readsInLine_nil (hn : n < i) (hnext : AtToken next) : ReadsInLine i n next [] := by
  intro b f m
  have hend : blockLines true .strip i false (.between b (some '\n') [])
      (marked ((m.past '\n').through (spaces n)) next) = _ :=
    blockLines_end hnext (column_through_spaces_lt hn (m := m.past '\n') rfl)
  simp only [blockBody, finalBreaks, blockEnding, if_true, List.nil_append, List.cons_append, marked_cons,
    chompingOf]
  rw [blockLines_line_break rfl, blockLines_spaces _ (by simp [Mark.past, isBreak, Mark.nextLine]; omega), hend]
  rfl

private theorem readsBetweenLines_nil (hn : n < i) (hnext : AtToken next) : ReadsBetweenLines i n next [] := by
  intro b lead trail f m hm
  simp only [blockBody, finalBreaks, blockEnding, Nat.succ_ne_zero, if_false, List.nil_append, List.append_nil]
  rw [blockLines_spaces _ (by omega), blockLines_end hnext (column_through_spaces_lt hn hm), tail_chompingOf]

private theorem column_past_of_isBreak (hbreak : isBreak c = true) (m : Mark) : (m.past c).column = 0 := by
  rw [Mark.past_of_isBreak hbreak]
  rfl

/-- The line end `c` leads from a line to the next one. -/
theorem ReadsBetweenLines.lineEnd (h : ReadsBetweenLines i n next cs) (hprint : isPrintable c = true)
    (hbreak : isBreak c = true) : ReadsInLine i n next (c :: cs) := by
  intro b f m
  have := h b (some c) [] false (m.past c) (column_past_of_isBreak hbreak m)
  simp only [blockBody, endsLine_eq_isBreak hprint, hbreak, if_true, finalBreaks, List.cons_append, marked_cons]
  rw [blockLines_line_break hbreak]
  simpa using this

private theorem ReadsBetweenLines.furtherEnd (h : ReadsBetweenLines i n next cs) (hprint : isPrintable c = true)
    (hbreak : isBreak c = true) : ReadsBetweenLines i n next (c :: cs) := by
  intro b lead trail f m _
  have := h b lead (trail ++ [c]) f (m.past c) (column_past_of_isBreak hbreak m)
  simp only [List.length_append, List.length_singleton] at this
  simp only [blockBody, endsLine_eq_isBreak hprint, hbreak, if_true, finalBreaks, List.cons_append, marked_cons]
  rw [blockLines_between_break hbreak, this]
  simp

private theorem ReadsInLine.char (h : ReadsInLine i n next cs) (hprint : isPrintable c = true)
    (hbreak : isBreak c = false) :
    ReadsInLine i n next (c :: cs) := by
  intro b f m
  have := h b false (m.past c)
  simp only [blockBody, endsLine_eq_isBreak hprint, hbreak, Bool.false_eq_true, if_false, finalBreaks,
    List.cons_append, List.nil_append, marked_cons]
  rw [blockLines_line_char hbreak, this]
  simp

/-- A character `c` behind the indentation leads back into a line. -/
theorem ReadsInLine.firstChar (h : ReadsInLine i n next cs) (hprint : isPrintable c = true)
    (hbreak : isBreak c = false) : ReadsBetweenLines i n next (c :: cs) := by
  intro b lead trail f m hm
  have := h (isGap c) false ((m.through (spaces i)).past c)
  simp only [blockBody, endsLine_eq_isBreak hprint, hbreak, Bool.false_eq_true, if_false, if_true, finalBreaks,
    List.append_assoc, List.cons_append]
  rw [blockLines_spaces _ (by omega), marked_cons,
    blockLines_between_char hprint hbreak (by rw [Mark.through_spaces]; simp [hm])]
  simp only [List.append_assoc] at this
  rw [this]
  simp

/-- The lines of the block `cs` read back. -/
theorem blockLines_blockBody (hn : n < i) (hprint : Printed cs) (hnext : AtToken next) :
    ReadsInLine i n next cs ∧ ReadsBetweenLines i n next cs := by
  induction cs with
  | nil => exact ⟨readsInLine_nil hn hnext, readsBetweenLines_nil hn hnext⟩
  | cons c cs ih =>
    rw [printed_cons] at hprint
    obtain ⟨hline, hbetween⟩ := ih hprint.2
    cases hbreak : isBreak c with
    | true => exact ⟨hbetween.lineEnd hprint.1 hbreak, hbetween.furtherEnd hprint.1 hbreak⟩
    | false => exact ⟨hline.char hprint.1 hbreak, hline.firstChar hprint.1 hbreak⟩

end Body

/-! ## The header -/

/-- A text that begins with `c`, neither a space nor a line end, shows how deep its lines are. -/
theorem widestIndent_spaces (stop m : Mark) (i : Nat) {c : Char} (hc : c ≠ ' ') (hbreak : isBreak c = false)
    (x : List Char) : widestIndent stop (marked m (spaces i ++ c :: x)) = m.column + i := by
  induction i generalizing m with
  | zero =>
    rw [spaces, List.replicate_zero, List.nil_append, marked_cons, widestIndent, beq_eq_false_iff_ne.2 hc, hbreak]
    rfl
  | succ i ih =>
    rw [spaces, List.replicate_succ, List.cons_append, marked_cons, widestIndent, beq_self_eq_true, if_pos rfl]
    refine (ih _).trans ?_
    have : (m.past ' ').column = m.column + 1 := rfl
    omega

/-- The header of a block is read back as its chomping `ch`, and the line end behind it is passed. -/
theorem blockHeader_hints (hinted : Bool) (ch : Chomping) (m : Mark) (x : List Char) :
    ∃ r, blockHeader (marked m ((if hinted then ['2'] else []) ++ chompingText ch ++ '\n' :: x)) =
        some (⟨ch, if hinted then some 2 else none⟩, r) ∧
      lineRest r = some (marked (m.through ((if hinted then ['2'] else []) ++ chompingText ch ++ ['\n'])) x) := by
  cases hinted <;> cases ch <;> exact ⟨_, rfl, rfl⟩

/-- A text `cs` that may be written as a block reads back as itself. -/
theorem blockScalar_scalarText {p n : Nat} (hn : n ≤ p) {cs next : List Char} (hne : cs ≠ [])
    (hprint : Printed cs) (hnext : AtToken next) (stop m : Mark) :
    blockScalar true (some p) stop (marked m (indentHint cs ++ chompHint cs ++ '\n' :: (blockBody (p + 2) true cs ++
        (blockEnding (finalBreaks 1 cs) ++ spaces n ++ next)))) =
      some (cs, marked (m.through (indentHint cs ++ chompHint cs ++ '\n' :: (blockBody (p + 2) true cs ++
        (blockEnding (finalBreaks 1 cs) ++ spaces n)))) next) := by
  obtain ⟨c, ds, rfl⟩ := List.exists_cons_of_ne_nil hne
  have hc := (printed_cons.1 hprint).1
  have hindent : indentHint (c :: ds) = if c == ' ' || isBreak c then ['2'] else [] := by
    rw [indentHint, endsLine_eq_isBreak hc]
    rfl
  rw [hindent, chompHint_eq hne hprint]
  generalize hch : chompingOf (finalBreaks 1 (c :: ds)) = ch at *
  obtain ⟨r, hheader, hrest⟩ := blockHeader_hints (c == ' ' || isBreak c) ch m (blockBody (p + 2) true (c :: ds) ++
    (blockEnding (finalBreaks 1 (c :: ds)) ++ spaces n ++ next))
  generalize hhints : (if c == ' ' || isBreak c then ['2'] else []) ++ chompingText ch = hints at *
  have hcolumn : (m.through (hints ++ ['\n'])).column = 0 := by
    rw [Mark.through_append]
    rfl
  have hmark : ∀ w : List Char, m.through (hints ++ '\n' :: w) = (m.through (hints ++ ['\n'])).through w := by
    intro w
    rw [← Mark.through_append, List.append_assoc, List.singleton_append]
  have hlines := fun f => (blockLines_blockBody (i := p + 2) (n := n) (by omega) hprint hnext).2 false none [] f
    (m.through (hints ++ ['\n'])) hcolumn
  simp only [List.length_nil, Nat.zero_add, hch] at hlines
  rw [blockScalar, hheader, hmark]
  simp only [hrest]
  -- with a hint the indentation is told, without one it is that of the first line
  cases hhint : (c == ' ' || isBreak c) with
  | true => simpa using hlines false
  | false =>
    rw [Bool.or_eq_false_iff, beq_eq_false_iff_ne] at hhint
    have hbody : blockBody (p + 2) true (c :: ds) = spaces (p + 2) ++ c :: blockBody (p + 2) false ds := by
      rw [blockBody, endsLine_eq_isBreak hc, hhint.2]
      rfl
    have hwidest : widestIndent stop (marked (m.through (hints ++ ['\n'])) (blockBody (p + 2) true (c :: ds) ++
        (blockEnding (finalBreaks 1 (c :: ds)) ++ spaces n ++ next))) = p + 2 := by
      rw [hbody, List.append_assoc, List.cons_append, widestIndent_spaces _ _ _ hhint.1 hhint.2, hcolumn,
        Nat.zero_add]
    have hmax : max (p + 2) (p + 1) = p + 2 := by omega
    simp only [Bool.false_eq_true, if_false, hwidest, hmax]
    simpa using hlines true

end DatasetLint.Yaml
