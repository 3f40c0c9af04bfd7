import DatasetLint.Check.Encoding
import DatasetLint.Proofs.Text.Pieces

/-!
# The lines of a text

A line begins with the text or behind a line feed. It goes up to the next line feed or, if there is none, to the
end of the text, where nothing at all is no line. Lines are counted from one. The lines of a text can be told one
after the other: the first of them, and those of what follows its line feed.
-/

namespace DatasetLint.Check.Encoding

/-! ## One line after the other -/

theorem lines_of_notMem {l : List Char} (hne : l ≠ []) (hl : '\n' ∉ l) : lines l = [l] := by
  rw [lines, Text.pieces_of_notMem hl]
  exact if_neg fun h => hne (Option.some.inj (eq_of_beq h))

theorem lines_append_cons {l : List Char} (hl : '\n' ∉ l) (rest : List Char) :
    lines (l ++ '\n' :: rest) = l :: lines rest := by
  obtain ⟨p, ps, hrest⟩ := List.exists_cons_of_ne_nil (Text.pieces_ne_nil (· == '\n') rest)
  rw [lines, lines, Text.pieces_cons_of_notMem hl, hrest, List.getLast?_cons_cons, List.dropLast_cons_cons]
  split <;> rfl

/-- A `text` is empty, or a line without an end, or a line `l` with a line feed before another text. -/
theorem lines_cases (text : List Char) : text = [] ∨ (text ≠ [] ∧ '\n' ∉ text) ∨
    ∃ l rest, '\n' ∉ l ∧ text = l ++ '\n' :: rest := by
  by_cases hne : text = []
  · exact .inl hne
  · by_cases hmem : '\n' ∈ text
    · obtain ⟨l, rest, htext, hl⟩ := List.eq_append_cons_of_mem hmem
      exact .inr (.inr ⟨l, rest, hl, htext⟩)
    · exact .inr (.inl ⟨hne, hmem⟩)

@[elab_as_elim]
theorem lines_induction {motive : List Char → Prop} (nil : motive [])
    (last : ∀ l, l ≠ [] → '\n' ∉ l → motive l)
    (line : ∀ l rest, '\n' ∉ l → motive rest → motive (l ++ '\n' :: rest)) (text : List Char) : motive text := by
  induction hlength : text.length using Nat.strongRecOn generalizing text with
  | ind n ih =>
    rcases lines_cases text with rfl | ⟨hne, hl⟩ | ⟨l, rest, hl, rfl⟩
    · exact nil
    · exact last text hne hl
    · rw [List.length_append, List.length_cons] at hlength
      exact line l rest hl (ih rest.length (by omega) rest rfl)

/-! ## Texts with another one behind them -/

/-- What follows `text` begins a line. -/
def EndsLines (text : List Char) : Prop := text = [] ∨ text.getLast? = some '\n'

private theorem endsLines_append_cons {l rest : List Char} : EndsLines (l ++ '\n' :: rest) ↔ EndsLines rest := by
  rw [EndsLines, EndsLines, List.getLast?_append, List.getLast?_cons]
  cases rest with
  | nil => simp
  | cons c cs => simp [List.getLast?_cons]

private theorem not_endsLines {l : List Char} (hne : l ≠ []) (hl : '\n' ∉ l) : ¬EndsLines l :=
  fun h => h.elim hne fun hlast => hl (List.mem_of_getLast? hlast)

/-- A text with `EndsLines` is built up by lines and their line feeds. -/
theorem EndsLines.induction {motive : (a : List Char) → EndsLines a → Prop} (nil : motive [] (.inl rfl))
    (line : ∀ l rest, '\n' ∉ l → ∀ h : EndsLines rest, motive rest h →
      motive (l ++ '\n' :: rest) (endsLines_append_cons.2 h))
    (a : List Char) (ha : EndsLines a) : motive a ha := by
  induction a using lines_induction with
  | nil => exact nil
  | last l hne hl => exact absurd ha (not_endsLines hne hl)
  | line l rest hl ih => exact line l rest hl (endsLines_append_cons.1 ha) (ih _)

theorem endsLines_append {a : List Char} (ha : EndsLines a) {b : List Char} : EndsLines (a ++ b) ↔ EndsLines b := by
  induction a, ha using EndsLines.induction with
  | nil => exact Iff.rfl
  | line l rest hl h ih => rw [List.append_assoc, List.cons_append, endsLines_append_cons, ih]

/-- The `lines` of `b` are behind those of `a`, if this ends with a line. -/
theorem lines_append {a : List Char} (ha : EndsLines a) (b : List Char) : lines (a ++ b) = lines a ++ lines b := by
  induction a, ha using EndsLines.induction with
  | nil => rfl
  | line l rest hl h ih =>
    rw [List.append_assoc, List.cons_append, lines_append_cons hl, lines_append_cons hl, ih, List.cons_append]

theorem length_lines {a : List Char} (ha : EndsLines a) : (lines a).length = a.count '\n' := by
  induction a, ha using EndsLines.induction with
  | nil => rfl
  | line l rest hl h ih =>
    rw [lines_append_cons hl, List.length_cons, ih, List.count_append, List.count_eq_zero.2 hl,
      List.count_cons_self, Nat.zero_add]

/-! ## Lines by where they stand -/

/-- A line of `text`: its number, what it says, and whether a line feed ends it. -/
inductive IsLine (text : List Char) : Nat → List Char → Bool → Prop
  | ended {before line after : List Char} (htext : text = before ++ line ++ '\n' :: after)
    (hbefore : EndsLines before) (hline : '\n' ∉ line) : IsLine text (before.count '\n' + 1) line true
  | last {before line : List Char} (htext : text = before ++ line)
    (hbefore : EndsLines before) (hline : '\n' ∉ line) (hne : line ≠ []) :
    IsLine text (before.count '\n' + 1) line false

variable {text l rest line : List Char} {number : Nat} {ended : Bool}

theorem not_isLine_nil : ¬IsLine [] number line ended := by
  intro h
  cases h with
  | ended htext => simp at htext
  | last htext hbefore hline hne => exact hne (List.append_eq_nil_iff.1 htext.symm).2

/-- Where a text begins with the line `l` and a line feed, `before`, which ends lines, is nothing or begins so too.
-/
theorem EndsLines.cases_append_cons {before tail : List Char} (hbefore : EndsLines before) (hl : '\n' ∉ l)
    (h : l ++ '\n' :: rest = before ++ tail) :
    before = [] ∨ ∃ before', before = l ++ '\n' :: before' ∧ EndsLines before' ∧ rest = before' ++ tail := by
  rcases lines_cases before with rfl | ⟨hne, hmem⟩ | ⟨l', before', hl', rfl⟩
  · exact .inl rfl
  · exact absurd hbefore (not_endsLines hne hmem)
  · rw [List.append_assoc, List.cons_append] at h
    obtain ⟨rfl, rfl⟩ := Text.eq_of_append_cons hl hl' h
    exact .inr ⟨before', rfl, endsLines_append_cons.1 hbefore, rfl⟩

theorem isLine_append_cons (hl : '\n' ∉ l) : IsLine (l ++ '\n' :: rest) number line ended ↔
    number = 1 ∧ line = l ∧ ended = true ∨ ∃ n, number = n + 1 ∧ IsLine rest n line ended := by
  have hcount : ∀ before : List Char, (l ++ '\n' :: before).count '\n' = before.count '\n' + 1 := fun before => by
    rw [List.count_append, List.count_eq_zero.2 hl, List.count_cons_self, Nat.zero_add]
  -- what is before a line is empty, or the whole first line is in it
  constructor
  · intro h
    cases h with
    | @ended before line after htext hbefore hline =>
      rw [List.append_assoc] at htext
      rcases hbefore.cases_append_cons hl htext with rfl | ⟨before', rfl, hbefore', rfl⟩
      · exact .inl ⟨rfl, (Text.eq_of_append_cons hl hline htext).1.symm, rfl⟩
      · exact .inr ⟨_, congrArg (· + 1) (hcount before'), .ended (List.append_assoc ..).symm hbefore' hline⟩
    | @last before line htext hbefore hline hne =>
      rcases hbefore.cases_append_cons hl htext with rfl | ⟨before', rfl, hbefore', rfl⟩
      · refine absurd ?_ hline
        rw [← List.nil_append line, ← htext]
        exact List.mem_append_right _ (List.mem_cons_self ..)
      · exact .inr ⟨_, congrArg (· + 1) (hcount before'), .last rfl hbefore' hline hne⟩
  · rintro (⟨rfl, rfl, rfl⟩ | ⟨n, rfl, h⟩)
    · exact @IsLine.ended _ [] line rest rfl (.inl rfl) hl
    · cases h with
      | @ended before line after htext hbefore hline =>
        rw [← hcount]
        refine @IsLine.ended _ _ line after ?_ (endsLines_append_cons.2 hbefore) hline
        rw [htext, List.append_assoc, List.append_assoc, List.append_assoc, List.cons_append]
      | @last before line htext hbefore hline hne =>
        rw [← hcount]
        refine .last ?_ (endsLines_append_cons.2 hbefore) hline hne
        rw [htext, List.append_assoc, List.cons_append]

theorem isLine_of_notMem (hne : l ≠ []) (hl : '\n' ∉ l) :
    IsLine l number line ended ↔ number = 1 ∧ line = l ∧ ended = false := by
  constructor
  · intro h
    cases h with
    | ended htext =>
      refine absurd ?_ hl
      rw [htext]
      exact List.mem_append_right _ (List.mem_cons_self ..)
    | @last before line htext hbefore hline =>
      have hnil : before = [] := by
        refine hbefore.resolve_right fun hlast => hl ?_
        rw [htext]
        exact List.mem_append_left _ (List.mem_of_getLast? hlast)
      subst hnil
      exact ⟨rfl, htext.symm, rfl⟩
  · rintro ⟨rfl, rfl, rfl⟩
    exact @IsLine.last _ [] line rfl (.inl rfl) hl hne

/-- The end of a `line` that no line feed ends is the end of the text. -/
theorem IsLine.getLast?_eq (h : IsLine text number line false) : text.getLast? = line.getLast? := by
  cases h with
  | last htext hbefore hline hne =>
    obtain ⟨c, hc⟩ := Option.isSome_iff_exists.1 (List.getLast?_isSome.2 hne)
    rw [htext, List.getLast?_append, hc, Option.some_or]

/-- A line feed at the end of `text` changes no line, except that the last one is `ended` by it. -/
theorem isLine_append_lineFeed (h : ¬EndsLines text) :
    IsLine (text ++ ['\n']) number line ended ↔ ended = true ∧ ∃ e, IsLine text number line e := by
  -- what is behind the first line does not end a line either, so the induction goes on in it
  induction text using lines_induction generalizing number with
  | nil => exact absurd (.inl rfl) h
  | last l hne hl =>
    rw [isLine_append_cons hl]
    simp only [isLine_of_notMem hne hl, not_isLine_nil, and_false, exists_false, or_false, exists_and_left,
      exists_eq, and_true]
    exact ⟨fun ⟨hnumber, hline, hended⟩ => ⟨hended, hnumber, hline⟩,
      fun ⟨hended, hnumber, hline⟩ => ⟨hnumber, hline, hended⟩⟩
  | line l rest hl ih =>
    rw [List.append_assoc, List.cons_append, isLine_append_cons hl]
    simp only [isLine_append_cons hl, ih fun hrest => h (endsLines_append_cons.2 hrest)]
    constructor
    · rintro (⟨rfl, rfl, rfl⟩ | ⟨n, rfl, rfl, e, he⟩)
      · exact ⟨rfl, true, .inl ⟨rfl, rfl, rfl⟩⟩
      · exact ⟨rfl, e, .inr ⟨n, rfl, he⟩⟩
    · rintro ⟨rfl, e, ⟨rfl, rfl, rfl⟩ | ⟨n, rfl, he⟩⟩
      · exact .inl ⟨rfl, rfl, rfl⟩
      · exact .inr ⟨n, rfl, rfl, e, he⟩

end DatasetLint.Check.Encoding
