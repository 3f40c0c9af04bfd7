import DatasetLint.Proofs.Yaml.Marked

/-!
# Plain scalars

A text that may be written plain reads back as itself. It ends at the colon behind a key, or at a line
end if the next line is not deep enough to continue it.
-/

namespace DatasetLint.Yaml

open Writer Token

/-- The text `cs` is at its end or begins with a character of a token. -/
def AtToken (cs : List Char) : Prop :=
  ∀ c ∈ cs.head?, isGap c = false ∧ isBreak c = false ∧ c ≠ '#' ∧ c ≠ '\ufeff'

theorem atToken_nil : AtToken [] := by simp [AtToken]

theorem atToken_cons {c : Char} {cs : List Char} :
    AtToken (c :: cs) ↔ isGap c = false ∧ isBreak c = false ∧ c ≠ '#' ∧ c ≠ '\ufeff' := by
  simp [AtToken]

/-- What a plain scalar may begin with and end with. -/
theorem plainAllowed_iff {cs : List Char} : plainAllowed cs = true ↔
    bordered (fun c => c == ' ' || endsLine c) cs = false ∧ Printed cs ∧ (∀ c ∈ cs, isBreak c = false) ∧
      hasPair (· == ' ') endsLine cs = false ∧ hasIndicator cs = false := by
  simp only [plainAllowed, Bool.not_eq_true', Bool.or_eq_false_iff, needsEscape_iff, and_assoc]
  refine and_congr_right fun _ => and_congr_right fun hprint => ?_
  rw [any_endsLine_iff hprint, and_left_comm]

/-! ## Reading -/

section Reading

variable {x : PlainContext}

private theorem plainRest_space (last : Mark) (afterGap : Bool) (gap : Gap) (m : Mark) (r : Chars) :
    plainRest x last afterGap gap ((' ', m) :: r) = plainRest x last true (gap.addBlank ' ') r := by
  rw [plainRest, show isGap ' ' = true from rfl, if_pos rfl, show (' ' == '\t') = false from rfl,
    Bool.false_and, Bool.false_and, if_neg Bool.false_ne_true]

variable (hflow : x.inFlow = false)

include hflow

/-- A character `c` that belongs to the scalar. -/
theorem plainRest_char {c : Char} (hgap : isGap c = false) (hbreak : isBreak c = false) {afterGap : Bool}
    {m : Mark} {r : Chars} (hends : x.ends afterGap c m r = false) (last : Mark) (gap : Gap) :
    plainRest x last afterGap gap ((c, m) :: r) =
      (plainRest x (Chars.here x.stop r) false .none r).map
        fun p => { p with text := gap.text ++ c :: p.text } := by
  rw [plainRest, hgap, hbreak, hends, hflow]
  rfl

/-- A character `c` at which the scalar ends. -/
theorem plainRest_end {c : Char} (hgap : isGap c = false) (hbreak : isBreak c = false) {afterGap : Bool}
    {m : Mark} {r : Chars} (hends : x.ends afterGap c m r = true) (last : Mark) (gap : Gap) :
    plainRest x last afterGap gap ((c, m) :: r) = some ⟨[], last, (c, m) :: r, gap.hasBreak⟩ := by
  rw [plainRest, hgap, hbreak, hends, hflow]
  rfl

/-- A key ends at its colon. -/
theorem plainRest_colon {t : List Char} (ht : t.head?.all (fun c => isGap c || isBreak c)) (last m : Mark) :
    plainRest x last false .none (marked m (':' :: t)) = some ⟨[], last, marked m (':' :: t), false⟩ := by
  have hends : x.ends false ':' m (marked (m.past ':') t) = true := by
    simp [PlainContext.ends, atBlank_marked, ht]
  rw [marked_cons]
  exact plainRest_end hflow rfl rfl hends last .none

/-- A scalar ends with its line if the next one is not as deep as `x.indent`. -/
theorem plainRest_lineEnd {n : Nat} (hn : n < x.indent) {next : List Char} (hnext : AtToken next)
    (last m : Mark) :
    plainRest x last false .none (marked m ('\n' :: spaces n ++ next)) =
      some ⟨[], last, marked (m.through ('\n' :: spaces n)) next, true⟩ := by
  -- spaces behind a line end are none of the text
  have hspaces : ∀ (n : Nat) (m : Mark),
      plainRest x last true (.lines '\n' []) (marked m (spaces n ++ next)) =
        plainRest x last true (.lines '\n' []) (marked (m.through (spaces n)) next) := by
    intro n
    induction n with
    | zero => intro m; rfl
    | succ n ih =>
      intro m
      rw [spaces, List.replicate_succ, List.cons_append, marked_cons, plainRest_space]
      exact ih _
  have hbreak : plainRest x last false .none (marked m ('\n' :: spaces n ++ next)) =
      plainRest x last true (.lines '\n' []) (marked (m.past '\n') (spaces n ++ next)) := by
    rw [List.cons_append, marked_cons, plainRest]
    rfl
  rw [hbreak, hspaces, Mark.through_cons]
  cases next with
  | nil => rfl
  | cons c next =>
    obtain ⟨hgap, hbr, -⟩ := atToken_cons.1 hnext
    have hcolumn : ((m.past '\n').through (spaces n)).column < x.indent := by
      rw [Mark.through_spaces, Mark.past_of_isBreak rfl]
      simpa [Mark.nextLine] using hn
    have hends : x.ends true c ((m.past '\n').through (spaces n))
        (marked (((m.past '\n').through (spaces n)).past c) next) = true := by
      simp [PlainContext.ends, hflow, hcolumn]
    exact plainRest_end hflow hgap hbr hends last _

/-- Nothing ends a scalar inside a text without indicators, if the text stands deep enough. -/
theorem ends_eq_false {c : Char} {cs tail : List Char} (hprint : Printed cs) {spaced afterGap : Bool}
    (hcolon : (c == ':' && spacingNext cs) = false) (hhash : (c == '#' && spaced) = false)
    (hspaced : afterGap = true → spaced = true) {m : Mark} (hafter : afterGap = true → x.indent ≤ m.column)
    (hmarker : m.column = 0 → Chars.atDocumentMarker (marked m (c :: cs ++ tail)) = false) :
    x.ends afterGap c m (marked (m.past c) (cs ++ tail)) = false := by
  have hgap : (afterGap && (c == '#' || (!x.inFlow && decide (m.column < x.indent)))) = false := by
    cases hag : afterGap with
    | false => rfl
    | true =>
      rw [hspaced hag, Bool.and_true] at hhash
      simp [hhash, Nat.not_lt.2 (hafter hag)]
  have hmark : (m.column == 0 && Chars.atDocumentMarker ((c, m) :: marked (m.past c) (cs ++ tail))) = false := by
    by_cases h0 : m.column = 0
    · have := hmarker h0
      rw [List.cons_append, marked_cons] at this
      rw [this, Bool.and_false]
    · rw [beq_eq_false_iff_ne.2 h0, Bool.false_and]
  have hcol : (c == ':' && (marked (m.past c) (cs ++ tail)).atBlank) = false := by
    cases cs with
    | nil =>
      -- no scalar ends with a colon
      simp only [spacingNext, Bool.and_true] at hcolon
      rw [hcolon, Bool.false_and]
    | cons d cs =>
      have hd := (printed_cons.1 hprint).1
      rw [spacingNext, isSpacing_eq_of_isPrintable hd] at hcolon
      rw [List.cons_append, marked_cons, Chars.atBlank]
      exact hcolon
  rw [PlainContext.ends, hgap, hmark, hcol, hflow]
  rfl

/-- The characters `cs` of a text without indicators are read one after the other. -/
theorem plainRest_append {cs : List Char} (hne : cs ≠ []) (hprint : Printed cs)
    (hbreak : ∀ c ∈ cs, isBreak c = false) (hlast : cs.getLast? ≠ some ' ') {spaced : Bool}
    (hinner : hasInnerIndicator spaced cs = false) {afterGap : Bool} (hspaced : afterGap = true → spaced = true)
    {m : Mark} (hcolumn : x.indent ≤ m.column + 1) (hafter : afterGap = true → x.indent ≤ m.column)
    {tail : List Char} (hmarker : m.column = 0 → Chars.atDocumentMarker (marked m (cs ++ tail)) = false)
    (last : Mark) (g : List Char) :
    ∃ last', plainRest x last afterGap (.blanks g) (marked m (cs ++ tail)) =
      (plainRest x last' false .none (marked (m.through cs) tail)).map
        fun p => { p with text := g ++ cs ++ p.text } := by
  induction cs generalizing spaced afterGap m last g with
  | nil => exact absurd rfl hne
  | cons c cs ih =>
    rw [printed_cons] at hprint
    rw [List.forall_mem_cons] at hbreak
    simp only [hasInnerIndicator, Bool.or_eq_false_iff] at hinner
    obtain ⟨⟨hcolon, hhash⟩, hinner⟩ := hinner
    have hpast : (m.past c).column = m.column + 1 := by
      rw [Mark.past_of_not_isBreak hbreak.1]
      rfl
    have hmarker' : (m.past c).column = 0 →
        Chars.atDocumentMarker (marked (m.past c) (cs ++ tail)) = false := by
      intro h
      omega
    by_cases hsp : c = ' '
    · -- a space joins the gap, and a text does not end with one
      subst hsp
      have hcs : cs ≠ [] := by
        rintro rfl
        exact hlast rfl
      have hlast' : cs.getLast? ≠ some ' ' := by
        rwa [List.getLast?_cons_of_ne_nil hcs] at hlast
      obtain ⟨last', h⟩ := ih hcs hprint.2 hbreak.2 hlast' hinner (fun _ : true = true => rfl)
        (by omega) (fun _ => by omega) hmarker' last (g ++ [' '])
      refine ⟨last', ?_⟩
      rw [List.cons_append, marked_cons, plainRest_space, Gap.addBlank, h]
      simp
    · have hgap : isGap c = false := by
        rw [isGap_eq_of_isPrintable hprint.1]
        exact beq_eq_false_iff_ne.2 hsp
      have hends := ends_eq_false hflow hprint.2 hcolon hhash hspaced hafter hmarker
      rw [List.cons_append, marked_cons, plainRest_char hflow hgap hbreak.1 hends]
      -- behind its last character the text is followed by the tail without a gap
      by_cases hcs : cs = []
      · subst hcs
        refine ⟨Chars.here x.stop (marked (m.past c) tail), ?_⟩
        simp [Gap.text]
      · have hlast' : cs.getLast? ≠ some ' ' := by
          rwa [List.getLast?_cons_of_ne_nil hcs] at hlast
        obtain ⟨last', h⟩ := ih hcs hprint.2 hbreak.2 hlast' hinner
          (fun h : false = true => absurd h Bool.false_ne_true) (by omega) (by simp) hmarker'
          (Chars.here x.stop (marked (m.past c) (cs ++ tail))) []
        refine ⟨last', ?_⟩
        simp [Gap.none, h, Gap.text, Option.map_map, Function.comp_def]

end Reading

end DatasetLint.Yaml
