import DatasetLint.Yaml.Token.Stream
import DatasetLint.Yaml.Writer.Scalar

/-!
# Characters and their positions

In a text of printable characters no line end takes more than one character, so the position of a
character is settled by counting: `marked` gives every character its position and `Mark.through` the one
behind a text. Both go along with appending texts, which is how a writer makes them.
-/

namespace DatasetLint.Yaml

open Writer

/-! ## Printable characters -/

/-- The class `p` of characters has only one of `c` and `d`. -/
theorem ne_of_class {p : Char → Bool} {c d : Char} (h : p c = true) (hd : p d = false) : c ≠ d := by
  rintro rfl
  rw [h] at hd
  cases hd

/-- A text of characters that are written as they are. -/
def Printed (cs : List Char) : Prop := ∀ c ∈ cs, isPrintable c = true

@[simp] theorem printed_nil : Printed [] := List.forall_mem_nil _

@[simp] theorem printed_cons {c : Char} {cs : List Char} :
    Printed (c :: cs) ↔ isPrintable c = true ∧ Printed cs := by
  simp [Printed]

@[simp] theorem printed_append {cs ds : List Char} : Printed (cs ++ ds) ↔ Printed cs ∧ Printed ds := by
  simp [Printed, or_imp, forall_and]

theorem printed_spaces (n : Nat) : Printed (spaces n) := by
  intro c hc
  rw [spaces, List.mem_replicate] at hc
  rw [hc.2]
  decide

theorem isPrintable_iff {c : Char} : isPrintable c = true ↔
    c.toNat = 0x0A ∨ (0x20 ≤ c.toNat ∧ c.toNat ≤ 0x7E) ∨
      (0xA0 ≤ c.toNat ∧ c.toNat ≤ 0xFFFD ∧ c.toNat ≠ 0xFEFF) ∨ 0x10000 ≤ c.toNat := by
  have hnl : c = '\n' ↔ c.toNat = 0x0A := by
    rw [← Char.toNat_inj]
    rfl
  simp only [isPrintable, Bool.or_eq_true, Bool.and_eq_true, beq_iff_eq, bne_iff_ne, ne_eq,
    decide_eq_true_eq, hnl]
  omega

theorem isAllowed_of_isPrintable {c : Char} (h : isPrintable c = true) : isAllowed c = true := by
  rw [isPrintable_iff] at h
  simp only [isAllowed, Bool.or_eq_true, Bool.and_eq_true, beq_iff_eq, decide_eq_true_eq]
  omega

/-- Of the ways to end a line only the line feed and the separators are printable. -/
theorem endsLine_eq_isBreak {c : Char} (h : isPrintable c = true) : endsLine c = isBreak c := by
  have hcr : (c == '\r') = false := beq_eq_false_iff_ne.2 (ne_of_class h rfl)
  have hnel : (c == '\u0085') = false := beq_eq_false_iff_ne.2 (ne_of_class h rfl)
  simp [endsLine, isBreak, hcr, hnel]

theorem isGap_eq_of_isPrintable {c : Char} (h : isPrintable c = true) : isGap c = (c == ' ') := by
  have htab : (c == '\t') = false := beq_eq_false_iff_ne.2 (ne_of_class h rfl)
  simp [isGap, htab]

theorem isSpacing_eq_of_isPrintable {c : Char} (h : isPrintable c = true) :
    isSpacing c = (isGap c || isBreak c) := by
  have hnul : (c == '\x00') = false := beq_eq_false_iff_ne.2 (ne_of_class h rfl)
  simp [isSpacing, hnul, endsLine_eq_isBreak h]

theorem any_endsLine_iff {cs : List Char} (h : Printed cs) :
    cs.any endsLine = false ↔ ∀ c ∈ cs, isBreak c = false := by
  simp only [List.any_eq_false, Bool.not_eq_true]
  exact forall₂_congr fun c hc => by rw [endsLine_eq_isBreak (h c hc)]

theorem needsEscape_iff {cs : List Char} :
    needsEscape cs = false ↔ Printed cs ∧ hasPair (· == ' ') endsLine cs = false := by
  simp [needsEscape, Printed]

/-! ## Positions -/

/-- The position behind the character `c`. -/
def Mark.past (m : Mark) (c : Char) : Mark := if isBreak c then m.nextLine 1 else m.next

/-- The position behind the text `cs`. -/
def Mark.through (m : Mark) (cs : List Char) : Mark := cs.foldl Mark.past m

/-- A text with the position of every character, counted from `m`. -/
def marked (m : Mark) : List Char → Chars
  | [] => []
  | c :: cs => (c, m) :: marked (m.past c) cs

namespace Mark

@[simp] theorem through_nil (m : Mark) : m.through [] = m := rfl

@[simp] theorem through_cons (m : Mark) (c : Char) (cs : List Char) :
    m.through (c :: cs) = (m.past c).through cs := rfl

@[simp] theorem through_append (m : Mark) (cs ds : List Char) :
    m.through (cs ++ ds) = (m.through cs).through ds := List.foldl_append

@[simp] theorem index_past (m : Mark) (c : Char) : (m.past c).index = m.index + 1 := by
  rw [past]
  split <;> rfl

@[simp] theorem index_through (m : Mark) (cs : List Char) : (m.through cs).index = m.index + cs.length := by
  induction cs generalizing m with
  | nil => rfl
  | cons c cs ih =>
    rw [through_cons, ih, index_past, List.length_cons]
    omega

theorem past_of_isBreak {m : Mark} {c : Char} (h : isBreak c = true) : m.past c = m.nextLine 1 := by
  rw [past, if_pos h]

theorem past_of_not_isBreak {m : Mark} {c : Char} (h : isBreak c = false) : m.past c = m.next := by
  rw [past, h]
  rfl

/-- On one line only the column grows. -/
theorem through_of_not_isBreak {m : Mark} {cs : List Char} (h : ∀ c ∈ cs, isBreak c = false) :
    m.through cs = ⟨m.index + cs.length, m.line, m.column + cs.length⟩ := by
  induction cs generalizing m with
  | nil => rfl
  | cons c cs ih =>
    rw [through_cons, ih fun d hd => h d (List.mem_cons_of_mem _ hd),
      past_of_not_isBreak (h c (List.mem_cons_self ..)), next, List.length_cons]
    simp only [mk.injEq, true_and]
    exact ⟨by omega, by omega⟩

theorem through_spaces (m : Mark) (n : Nat) :
    m.through (spaces n) = ⟨m.index + n, m.line, m.column + n⟩ := by
  rw [through_of_not_isBreak, spaces, List.length_replicate]
  intro c hc
  rw [spaces, List.mem_replicate] at hc
  rw [hc.2]
  decide

private theorem line_le_past (m : Mark) (c : Char) : m.line ≤ (m.past c).line := by
  rw [past]
  split
  · exact Nat.le_succ _
  · exact Nat.le_refl _

theorem line_le_through (m : Mark) (cs : List Char) : m.line ≤ (m.through cs).line := by
  induction cs generalizing m with
  | nil => exact Nat.le_refl _
  | cons c cs ih => exact Nat.le_trans (m.line_le_past c) (ih _)

end Mark

@[simp] theorem marked_nil (m : Mark) : marked m [] = [] := rfl

@[simp] theorem marked_cons (m : Mark) (c : Char) (cs : List Char) :
    marked m (c :: cs) = (c, m) :: marked (m.past c) cs := rfl

@[simp] theorem map_marked (m : Mark) (cs : List Char) : (marked m cs).map (·.1) = cs := by
  induction cs generalizing m with
  | nil => rfl
  | cons c cs ih => rw [marked_cons, List.map_cons, ih]

@[simp] theorem length_marked (m : Mark) (cs : List Char) : (marked m cs).length = cs.length := by
  induction cs generalizing m with
  | nil => rfl
  | cons c cs ih => rw [marked_cons, List.length_cons, List.length_cons, ih]

/-- The position where a text begins is that of its first character, or where it stops. -/
@[simp] theorem here_marked (m : Mark) (cs : List Char) : Chars.here (m.through cs) (marked m cs) = m := by
  cases cs with
  | nil => rfl
  | cons c cs => rfl

/-- `annotate` gives the positions of a printable text by counting. -/
theorem annotate_eq {cs : List Char} (h : Printed cs) (m : Mark) :
    Source.annotate m cs = (marked m cs, m.through cs) := by
  induction cs generalizing m with
  | nil => rfl
  | cons c cs ih =>
    rw [printed_cons] at h
    obtain ⟨hc, hcs⟩ := h
    have hcr : c ≠ '\r' := ne_of_class hc rfl
    have hnel : c ≠ '\u0085' := ne_of_class hc rfl
    -- a carriage return is not printable, so no two characters make one line end
    rw [Source.annotate]
    · by_cases hnl : c = '\n'
      · subst hnl
        simp [ih hcs, Mark.past, isBreak]
      · by_cases hsep : isSeparator c = true
        · simp [hcr, hnel, hnl, hsep, ih hcs, Mark.past, isBreak]
        · simp [hcr, hnel, hnl, hsep, ih hcs, Mark.past, isBreak]
    · intro cs' hc' _
      exact hcr hc'

/-! ## The characters at the head -/

/-- A document marker begins with three dashes or three dots. -/
theorem Chars.exists_of_atDocumentMarker {r : Chars} (h : r.atDocumentMarker = true) :
    ∃ c cs, (c = '-' ∨ c = '.') ∧ r.map (·.1) = c :: c :: c :: cs := by
  unfold atDocumentMarker at h
  split at h
  · simp only [Bool.and_eq_true, Bool.or_eq_true, beq_iff_eq] at h
    obtain ⟨⟨⟨rfl, rfl⟩, hc⟩, -⟩ := h
    exact ⟨_, _, hc, rfl⟩
  · cases h

theorem atDocumentMarker_cons {c : Char} (h : c ≠ '-' ∧ c ≠ '.') (m : Mark) (r : Chars) :
    Chars.atDocumentMarker ((c, m) :: r) = false := by
  rw [Bool.eq_false_iff]
  intro hmarker
  obtain ⟨d, cs, hd, heq⟩ := Chars.exists_of_atDocumentMarker hmarker
  obtain ⟨rfl, -⟩ := List.cons.inj heq
  exact hd.elim h.1 h.2

theorem atDocumentMarker_pair {c d : Char} (h : c ≠ d) (m : Mark) (cs : List Char) :
    Chars.atDocumentMarker (marked m (c :: d :: cs)) = false := by
  rw [Bool.eq_false_iff]
  intro hmarker
  obtain ⟨e, ds, -, heq⟩ := Chars.exists_of_atDocumentMarker hmarker
  rw [map_marked] at heq
  cases heq
  exact h rfl

theorem atBlank_marked (m : Mark) (cs : List Char) :
    (marked m cs).atBlank = cs.head?.all fun c => isGap c || isBreak c := by
  cases cs with
  | nil => rfl
  | cons c cs => rfl

end DatasetLint.Yaml
