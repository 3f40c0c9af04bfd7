import DatasetLint.Proofs.Check.Lines
import DatasetLint.Proofs.Decimal.Integer

/-!
# What is wrong with a text

The flaws of a text are told in the order of its lines, those of one line in an order of their own, and last that
the text does not end with a line feed. Settings choose among them by their kind, and nothing else. Where a line
feed ends a text, the flaws of what follows are told behind its own, that many lines further.

One flaw is not what its message says: a carriage return at the end of a text counts as a line end of two
characters, although no line feed is there.
-/

namespace DatasetLint.Check.Encoding

/-! ## Flaws -/

/-- A `line` without what ends it: a line feed, and `\r` before that. -/
def content (line : List Char) (ended : Bool) : List Char :=
  if ended = true ∧ line.getLast? = some '\r' then line.dropLast else line

/-- What can be wrong with a line. -/
inductive LineFault where
  | returned
  | blankAtEnd
  | tabAtStart
deriving DecidableEq, Repr

namespace LineFault

def text : LineFault → String
  | returned => "CRLF line ending"
  | blankAtEnd => "trailing whitespace"
  | tabAtStart => "tab indentation"

/-- The place of a fault in the order in which those of a line are told. -/
def rank : LineFault → Nat
  | returned => 0
  | blankAtEnd => 1
  | tabAtStart => 2

/-- The `line` has the fault, where a line feed ends it, `ended`, or the text does. -/
def IsOf (line : List Char) (ended : Bool) : LineFault → Prop
  | returned => ended = true ∧ line.getLast? = some '\r'
  | blankAtEnd => (content line ended).getLast? = some ' ' ∨ (content line ended).getLast? = some '\t'
  | tabAtStart => line.head? = some '\t'

instance (line : List Char) (ended : Bool) : DecidablePred (IsOf line ended)
  | returned => inferInstanceAs (Decidable (_ ∧ _))
  | blankAtEnd => inferInstanceAs (Decidable (_ ∨ _))
  | tabAtStart => inferInstanceAs (Decidable (_ = _))

end LineFault

/-- What can be wrong with a text: a `LineFault` in a line, or that no line feed ends the text. -/
inductive Flaw where
  | inLine (number : Nat) (fault : LineFault)
  | unended
deriving DecidableEq, Repr

namespace Flaw

def message : Flaw → String
  | inLine n f => "line " ++ toString n ++ ": " ++ f.text
  | unended => "missing final newline"

def problem (s : Settings) (f : Flaw) : Problem := ⟨s.severity, f.message⟩

/-- The same flaw `k` lines further. -/
def shift (k : Nat) : Flaw → Flaw
  | inLine n f => inLine (n + k) f
  | unended => unended

/-- The order in which the flaws of a text are told: by line and `rank`, and `unended` last. -/
def Precedes : Flaw → Flaw → Prop
  | inLine m f, inLine n g => m < n ∨ m = n ∧ f.rank < g.rank
  | inLine _ _, unended => True
  | unended, _ => False

/-- The `text` has the flaw. -/
def IsIn (text : List Char) : Flaw → Prop
  | inLine n f => ∃ line ended, IsLine text n line ended ∧ f.IsOf line ended
  | unended => text ≠ [] ∧ text.getLast? ≠ some '\n'

end Flaw

namespace Settings

/-- The settings `s` ask for flaws of this kind. -/
def asksFor (s : Settings) : Flaw → Bool
  | .inLine _ .returned => s.crlf
  | .inLine _ .blankAtEnd => s.trailingWhitespace
  | .inLine _ .tabAtStart => s.tabIndent
  | .unended => s.finalNewline

/-- The settings `s`, but asking for all flaws. -/
def allOn (s : Settings) : Settings :=
  { s with trailingWhitespace := true, finalNewline := true, tabIndent := true, crlf := true }

private theorem asksFor_allOn (s : Settings) (f : Flaw) : s.allOn.asksFor f = true := by
  cases f with
  | inLine n fault => cases fault <;> rfl
  | unended => rfl

private theorem asksFor_shift (s : Settings) (k : Nat) (f : Flaw) : s.asksFor (f.shift k) = s.asksFor f := by
  cases f with
  | inLine n fault => cases fault <;> rfl
  | unended => rfl

end Settings

theorem LineFault.text_injective : Function.Injective LineFault.text := by
  intro f g h
  cases f <;> cases g <;> first | rfl | exact absurd h (by decide)

/-- The `message` of a flaw says its line and its kind. -/
theorem Flaw.message_injective : Function.Injective Flaw.message := by
  have hlist : ∀ (n : Nat) (f : LineFault), (inLine n f).message.toList =
      "line ".toList ++ (Decimal.natDigits n ++ ':' :: ' ' :: f.text.toList) := by
    intro n f
    rw [message, String.toList_append, String.toList_append, String.toList_append, List.append_assoc,
      List.append_assoc, Decimal.toList_toString]
    rfl
  have hne : ∀ (n : Nat) (f : LineFault), (inLine n f).message ≠ unended.message := by
    intro n f h
    cases (hlist n f).symm.trans (congrArg String.toList h)
  have hcolon : ∀ n, ':' ∉ Decimal.natDigits n := Decimal.notMem_natDigits (by decide)
  intro f g h
  cases f with
  | inLine m f =>
    cases g with
    | inLine n g =>
      have hsame := (hlist m f).symm.trans ((congrArg String.toList h).trans (hlist n g))
      obtain ⟨hdigits, hrest⟩ := Text.eq_of_append_cons (hcolon m) (hcolon n) (List.append_cancel_left hsame)
      have htext : f.text = g.text := String.toList_inj.1 (List.tail_eq_of_cons_eq hrest)
      rw [Decimal.natDigits_injective hdigits, LineFault.text_injective htext]
    | unended => exact absurd h (hne m f)
  | unended =>
    cases g with
    | inLine n g => exact absurd h.symm (hne n g)
    | unended => rfl

/-! ## The flaws of a text in turn -/

/-- The faults of `line`, where `\r` at its end is one whatever follows. -/
def faultsOf (line : List Char) : List LineFault :=
  [.returned, .blankAtEnd, .tabAtStart].filter fun f => f.IsOf line true

/-- The flaws in lines, numbered from `number` on. -/
def flawsFrom (number : Nat) : List (List Char) → List Flaw
  | [] => []
  | l :: ls => (faultsOf l).map (.inLine number) ++ flawsFrom (number + 1) ls

instance : DecidablePred EndsLines := fun _ => inferInstanceAs (Decidable (_ ∨ _))

def flaws (text : List Char) : List Flaw :=
  flawsFrom 1 (lines text) ++ if EndsLines text then [] else [.unended]

private theorem mem_faultsOf {line : List Char} {f : LineFault} : f ∈ faultsOf line ↔ f.IsOf line true := by
  rw [faultsOf, List.mem_filter, decide_eq_true_eq]
  cases f <;> simp

private theorem head?_content (line : List Char) (ended : Bool) :
    (content line ended).head? = some '\t' ↔ line.head? = some '\t' := by
  rw [content]
  split
  · rename_i h
    -- what is left out at the end is no tab
    cases line with
    | nil => rfl
    | cons c cs =>
      cases cs with
      | nil =>
        cases h.2
        decide
      | cons d ds => rfl
  · rfl

private theorem filter_map_filter {p : LineFault → Bool} {q : Flaw → Bool} (number : Nat) (fs : List LineFault) :
    (((fs.filter p).map (.inLine number)).filter q).map Flaw.message =
      fs.flatMap fun f => if q (.inLine number f) && p f then [(Flaw.inLine number f).message] else [] := by
  induction fs with
  | nil => rfl
  | cons f fs ih =>
    rw [List.flatMap_cons, ← ih, List.filter_cons]
    cases p f <;> cases hq : q (.inLine number f) <;> simp [hq]

private theorem lineMessages_eq (s : Settings) (number : Nat) (line : List Char) : lineMessages s number line =
    (((faultsOf line).map (.inLine number)).filter s.asksFor).map Flaw.message := by
  have hreturned : (line.getLast? == some '\r') = decide (LineFault.returned.IsOf line true) := by
    rw [Bool.eq_iff_iff, beq_iff_eq, decide_eq_true_eq]
    exact (and_iff_right rfl).symm
  have hbody : (if line.getLast? == some '\r' then line.dropLast else line) = content line true := by
    simp [content]
  have hblank : ((content line true).getLast?.any fun c => c == ' ' || c == '\t') =
      decide (LineFault.blankAtEnd.IsOf line true) := by
    rw [Bool.eq_iff_iff, decide_eq_true_eq, LineFault.IsOf.eq_def]
    cases (content line true).getLast? <;> simp
  have htab : ((content line true).head? == some '\t') = decide (LineFault.tabAtStart.IsOf line true) := by
    rw [Bool.eq_iff_iff, beq_iff_eq, decide_eq_true_eq]
    exact head?_content line true
  rw [faultsOf, filter_map_filter, lineMessages]
  dsimp only
  rw [hbody, hblank, htab, hreturned]
  simp only [List.flatMap_cons, List.flatMap_nil, List.append_nil, List.append_assoc]
  rfl

private theorem linesMessages_eq (s : Settings) (number : Nat) (ls : List (List Char)) :
    linesMessages s number ls = ((flawsFrom number ls).filter s.asksFor).map Flaw.message := by
  induction ls generalizing number with
  | nil => rfl
  | cons l ls ih => rw [linesMessages, flawsFrom, lineMessages_eq, ih, List.filter_append, List.map_append]

/-- What is reported about `text` are its `flaws`, as far as `s` asks for them. -/
theorem textMessages_eq (s : Settings) (text : List Char) :
    textMessages s text = ((flaws text).filter s.asksFor).map Flaw.message := by
  have hend : (if s.finalNewline && !text.isEmpty && text.getLast? != some '\n' then ["missing final newline"] else []) =
      ((if EndsLines text then [] else [.unended]).filter s.asksFor).map Flaw.message := by
    have hdecide : (!text.isEmpty && text.getLast? != some '\n') = !decide (EndsLines text) := by
      rw [Bool.eq_iff_iff, Bool.not_eq_true', decide_eq_false_iff_not, EndsLines, not_or, Bool.and_eq_true,
        bne_iff_ne, Bool.not_eq_true', List.isEmpty_eq_false_iff]
    rw [Bool.and_assoc, hdecide]
    by_cases h : EndsLines text
    · simp [h]
    · cases hs : s.finalNewline <;> simp [h, hs, Settings.asksFor, Flaw.message]
  rw [textMessages, flaws, linesMessages_eq, hend, List.filter_append, List.map_append]

theorem fileProblems_eq (s : Settings) (t : String) :
    fileProblems s t.toUTF8 = ((flaws t.toList).filter s.asksFor).map (Flaw.problem s) := by
  rw [fileProblems, Text.Utf8.decode_toUTF8]
  dsimp only
  rw [textMessages_eq, List.map_map]
  rfl

/-! ## Flaws by what they are -/

private theorem mem_flawsFrom {text : List Char} {n k : Nat} {f : LineFault} :
    .inLine n f ∈ flawsFrom (k + 1) (lines text) ↔
      ∃ m line ended, n = m + k ∧ IsLine text m line ended ∧ f.IsOf line true := by
  -- the lines behind the first are counted from one further, so the induction is for any count before them
  induction text using lines_induction generalizing k with
  | nil => simp [lines, Text.pieces, flawsFrom, not_isLine_nil]
  | last l hne hl =>
    rw [lines_of_notMem hne hl, flawsFrom, flawsFrom, List.append_nil, List.mem_map]
    simp only [isLine_of_notMem hne hl, mem_faultsOf]
    constructor
    · rintro ⟨g, hg, heq⟩
      cases heq
      exact ⟨1, l, false, Nat.add_comm .., ⟨rfl, rfl, rfl⟩, hg⟩
    · rintro ⟨_, _, _, rfl, ⟨rfl, rfl, rfl⟩, hf⟩
      exact ⟨f, hf, by rw [Nat.add_comm]⟩
  | line l rest hl ih =>
    rw [lines_append_cons hl, flawsFrom, List.mem_append, List.mem_map, ih]
    simp only [isLine_append_cons hl, mem_faultsOf]
    constructor
    · rintro (⟨g, hg, heq⟩ | ⟨m, line, ended, rfl, hline, hf⟩)
      · cases heq
        exact ⟨1, l, true, Nat.add_comm .., .inl ⟨rfl, rfl, rfl⟩, hg⟩
      · exact ⟨m + 1, line, ended, by omega, .inr ⟨m, rfl, hline⟩, hf⟩
    · rintro ⟨_, line, ended, rfl, ⟨rfl, rfl, rfl⟩ | ⟨m, rfl, hline⟩, hf⟩
      · exact .inl ⟨f, hf, by rw [Nat.add_comm]⟩
      · exact .inr ⟨m, line, ended, by omega, hline, hf⟩

private theorem exists_of_mem_flawsFrom {n : Nat} {ls : List (List Char)} {f : Flaw} (h : f ∈ flawsFrom n ls) :
    ∃ m g, f = .inLine m g ∧ n ≤ m := by
  induction ls generalizing n with
  | nil => cases h
  | cons l ls ih =>
    rw [flawsFrom, List.mem_append, List.mem_map] at h
    rcases h with ⟨g, -, rfl⟩ | h
    · exact ⟨n, g, rfl, Nat.le_refl n⟩
    · obtain ⟨m, g, rfl, hm⟩ := ih h
      exact ⟨m, g, rfl, Nat.le_of_succ_le hm⟩

private theorem unended_not_mem_flawsFrom (n : Nat) (ls : List (List Char)) : .unended ∉ flawsFrom n ls := by
  intro h
  obtain ⟨m, g, hg, -⟩ := exists_of_mem_flawsFrom h
  cases hg

private theorem mem_flaws_inLine {text : List Char} {n : Nat} {f : LineFault} :
    .inLine n f ∈ flaws text ↔ ∃ line ended, IsLine text n line ended ∧ f.IsOf line true := by
  have hend : Flaw.inLine n f ∉ if EndsLines text then [] else [.unended] := by
    split <;> simp
  rw [flaws, List.mem_append, or_iff_left hend, mem_flawsFrom (k := 0)]
  simp only [Nat.add_zero, exists_and_left, exists_eq_left']

private theorem mem_flaws_unended {text : List Char} : .unended ∈ flaws text ↔ ¬EndsLines text := by
  rw [flaws, List.mem_append, or_iff_right (unended_not_mem_flawsFrom 1 _)]
  split <;> simp [*]

private theorem content_of_getLast?_ne {line : List Char} (h : line.getLast? ≠ some '\r') (ended : Bool) :
    content line ended = line :=
  if_neg fun hreturned => h hreturned.2

/-- Without `\r` at its end a line has the same faults whether it is `ended` or not. -/
theorem LineFault.isOf_iff_of_getLast?_ne {line : List Char} {f : LineFault} (h : line.getLast? ≠ some '\r')
    (ended : Bool) : f.IsOf line ended ↔ f.IsOf line true := by
  cases f with
  | returned => exact iff_of_false (fun hf => h hf.2) fun hf => h hf.2
  | blankAtEnd => rw [IsOf, IsOf, content_of_getLast?_ne h, content_of_getLast?_ne h]
  | tabAtStart => exact Iff.rfl

/-- A line feed behind `line` takes no fault away. -/
theorem LineFault.IsOf.with_lineFeed {line : List Char} {ended : Bool} {f : LineFault} (h : f.IsOf line ended) :
    f.IsOf line true := by
  by_cases hlast : line.getLast? = some '\r'
  · cases ended with
    | true => exact h
    | false =>
      cases f with
      | returned => cases h.1
      | blankAtEnd =>
        -- a carriage return is no blank
        have hcontent : content line false = line := if_neg fun hended => Bool.false_ne_true hended.1
        rw [IsOf, hcontent, hlast] at h
        exact absurd h (by decide)
      | tabAtStart => exact h
  · exact (isOf_iff_of_getLast?_ne hlast ended).1 h

/-- `flaws` tells the flaws of `text`. If it ends with `\r`, they are also those that it would have with a line feed
behind this. -/
theorem mem_flaws_iff {text : List Char} {f : Flaw} : f ∈ flaws text ↔
    f.IsIn text ∨ text.getLast? = some '\r' ∧ f.IsIn (text ++ ['\n']) := by
  have hends : text.getLast? = some '\r' → ¬EndsLines text := by
    rintro hlast (rfl | hend)
    · cases hlast
    · cases hlast.symm.trans hend
  cases f with
  | unended =>
    rw [mem_flaws_unended, EndsLines, not_or, Flaw.IsIn, Flaw.IsIn, List.getLast?_concat]
    simp
  | inLine n f =>
    rw [mem_flaws_inLine, Flaw.IsIn, Flaw.IsIn]
    constructor
    · rintro ⟨line, ended, hline, hf⟩
      -- a line is checked as if it were ended, which matters if nothing ends it behind a carriage return
      cases ended with
      | true => exact .inl ⟨line, true, hline, hf⟩
      | false =>
        by_cases hlast : line.getLast? = some '\r'
        · have htext : text.getLast? = some '\r' := hline.getLast?_eq.trans hlast
          exact .inr ⟨htext, line, true, (isLine_append_lineFeed (hends htext)).2 ⟨rfl, false, hline⟩, hf⟩
        · exact .inl ⟨line, false, hline, (LineFault.isOf_iff_of_getLast?_ne hlast false).2 hf⟩
    · rintro (⟨line, ended, hline, hf⟩ | ⟨htext, line, ended, hline, hf⟩)
      · exact ⟨line, ended, hline, hf.with_lineFeed⟩
      · obtain ⟨-, e, hline⟩ := (isLine_append_lineFeed (hends htext)).1 hline
        exact ⟨line, e, hline, hf.with_lineFeed⟩

/-! ## The order of flaws -/

private theorem pairwise_faultsOf (line : List Char) : (faultsOf line).Pairwise fun f g => f.rank < g.rank := by
  have hall : [LineFault.returned, .blankAtEnd, .tabAtStart].Pairwise fun f g => f.rank < g.rank := by decide
  exact hall.filter _

private theorem pairwise_flawsFrom (n : Nat) (ls : List (List Char)) : (flawsFrom n ls).Pairwise Flaw.Precedes := by
  induction ls generalizing n with
  | nil => exact .nil
  | cons l ls ih =>
    rw [flawsFrom, List.pairwise_append, List.pairwise_map]
    refine ⟨(pairwise_faultsOf l).imp fun h => .inr ⟨rfl, h⟩, ih (n + 1), fun f hf g hg => ?_⟩
    obtain ⟨f, -, rfl⟩ := List.mem_map.1 hf
    obtain ⟨m, g, rfl, hm⟩ := exists_of_mem_flawsFrom hg
    exact .inl hm

private theorem pairwise_flaws (text : List Char) : (flaws text).Pairwise Flaw.Precedes := by
  rw [flaws, List.pairwise_append]
  refine ⟨pairwise_flawsFrom 1 _, ?_, fun f hf g hg => ?_⟩
  · split
    · exact .nil
    · exact List.pairwise_singleton ..
  · obtain ⟨m, f, rfl, -⟩ := exists_of_mem_flawsFrom hf
    split at hg
    · cases hg
    · cases List.mem_singleton.1 hg
      trivial

/-! ## A text behind another one -/

private theorem flawsFrom_append (n : Nat) (ls ms : List (List Char)) :
    flawsFrom n (ls ++ ms) = flawsFrom n ls ++ flawsFrom (n + ls.length) ms := by
  induction ls generalizing n with
  | nil => rfl
  | cons l ls ih =>
    rw [List.cons_append, flawsFrom, flawsFrom, ih, List.append_assoc, List.length_cons, Nat.add_right_comm,
      Nat.add_assoc]

private theorem flawsFrom_add (n k : Nat) (ls : List (List Char)) :
    flawsFrom (n + k) ls = (flawsFrom n ls).map (Flaw.shift k) := by
  induction ls generalizing n with
  | nil => rfl
  | cons l ls ih => rw [flawsFrom, flawsFrom, List.map_append, List.map_map, ← ih, Nat.add_right_comm]; rfl

/-- Behind `a`, which ends with a line, the `flaws` of `b` are the same, as many lines further. -/
theorem flaws_append {a : List Char} (ha : EndsLines a) (b : List Char) :
    flaws (a ++ b) = flaws a ++ (flaws b).map (Flaw.shift (a.count '\n')) := by
  rw [flaws, flaws, flaws, lines_append ha, flawsFrom_append, flawsFrom_add, length_lines ha, if_pos ha,
    List.append_nil, List.map_append, List.append_assoc]
  simp only [endsLines_append ha]
  split <;> rfl

/-! ## What is reported -/

/-- The problems of `t` have the severity of `s`. They are the flaws `fs` of `t` that `s` asks for, each once, in
the order `Precedes`. Only `\r` at the end of `t` is taken for a line end of two characters, as if a line feed were
behind it. -/
theorem fileProblems_exact (s : Settings) (t : String) : ∃ fs : List Flaw,
    fileProblems s t.toUTF8 = fs.map (Flaw.problem s) ∧ fs.Pairwise Flaw.Precedes ∧
      ∀ f, f ∈ fs ↔ s.asksFor f = true ∧
        (f.IsIn t.toList ∨ t.toList.getLast? = some '\r' ∧ f.IsIn (t.toList ++ ['\n'])) := by
  refine ⟨(flaws t.toList).filter s.asksFor, fileProblems_eq s t, (pairwise_flaws t.toList).filter _, fun f => ?_⟩
  rw [List.mem_filter, mem_flaws_iff, and_comm]

/-- Nothing ends the line of `a\r`, and its problems say that two characters do. -/
theorem fileProblems_loneReturn : ¬∃ fs : List Flaw,
    fileProblems .default "a\r".toUTF8 = fs.map (Flaw.problem .default) ∧ fs.Pairwise Flaw.Precedes ∧
      ∀ f, f ∈ fs ↔ Settings.default.asksFor f = true ∧ f.IsIn "a\r".toList := by
  rintro ⟨fs, hproblems, -, hfs⟩
  have hmem : Flaw.problem .default (.inLine 1 .returned) ∈ fs.map (Flaw.problem .default) := by
    rw [← hproblems, fileProblems_eq]
    exact List.mem_map_of_mem (by decide)
  obtain ⟨f, hf, hsame⟩ := List.mem_map.1 hmem
  have hmessage : f.message = (Flaw.inLine 1 .returned).message := congrArg Problem.message hsame
  cases Flaw.message_injective hmessage
  obtain ⟨-, line, ended, hline, hended, -⟩ := (hfs _).1 hf
  obtain ⟨-, -, hlast⟩ := (isLine_of_notMem (by decide) (by decide)).1 hline
  cases hended.symm.trans hlast

/-- Behind `a`, which ends with a line feed, the flaws of `b` are reported as many lines further. -/
theorem fileProblems_append (s : Settings) {a : String} (b : String) (ha : a.toList.getLast? = some '\n') :
    ∃ fs gs : List Flaw,
      fileProblems s a.toUTF8 = fs.map (Flaw.problem s) ∧ fileProblems s b.toUTF8 = gs.map (Flaw.problem s) ∧
      fileProblems s (a ++ b).toUTF8 =
        (fs ++ gs.map (Flaw.shift (a.toList.count '\n'))).map (Flaw.problem s) := by
  refine ⟨_, _, fileProblems_eq s a, fileProblems_eq s b, ?_⟩
  rw [fileProblems_eq, String.toList_append, flaws_append (.inr ha), List.filter_append, List.filter_map]
  simp only [Function.comp_def, Settings.asksFor_shift]

/-- Of the flaws that `s.allOn` reports, `s` reports those that it asks for. -/
theorem fileProblems_allOn (s : Settings) (t : String) : ∃ fs : List Flaw,
    fileProblems s.allOn t.toUTF8 = fs.map (Flaw.problem s.allOn) ∧
      fileProblems s t.toUTF8 = (fs.filter s.asksFor).map (Flaw.problem s) := by
  have hall : (flaws t.toList).filter s.allOn.asksFor = flaws t.toList :=
    List.filter_eq_self.2 fun f _ => s.asksFor_allOn f
  exact ⟨flaws t.toList, by rw [fileProblems_eq, hall], fileProblems_eq s t⟩

/-- `s` and `s'` report the same flaws of all `kinds` on which they agree. -/
theorem fileProblems_agree (s s' : Settings) (t : String) : ∃ fs gs : List Flaw,
    fileProblems s t.toUTF8 = fs.map (Flaw.problem s) ∧ fileProblems s' t.toUTF8 = gs.map (Flaw.problem s') ∧
      ∀ kinds : Flaw → Bool, (∀ f, kinds f = true → s.asksFor f = s'.asksFor f) →
        fs.filter kinds = gs.filter kinds := by
  refine ⟨_, _, fileProblems_eq s t, fileProblems_eq s' t, fun kinds hkinds => ?_⟩
  rw [List.filter_filter, List.filter_filter]
  refine List.filter_congr fun f _ => ?_
  cases hf : kinds f with
  | true => rw [hkinds f hf]
  | false => rfl

/-- `message` tells flaws apart. Behind `a`, which ends with a line feed, the flaws of `b` are reported as they are
without `a`, as many lines further. `s` reports those flaws, of all that `s.allOn` does, that it asks for; so `s`
and `s'` report the same flaws of all `kinds` on which they agree. -/
theorem fileProblems_local : Function.Injective Flaw.message ∧
    (∀ (s : Settings) (a b : String), a.toList.getLast? = some '\n' → ∃ fs gs : List Flaw,
      fileProblems s a.toUTF8 = fs.map (Flaw.problem s) ∧ fileProblems s b.toUTF8 = gs.map (Flaw.problem s) ∧
      fileProblems s (a ++ b).toUTF8 =
        (fs ++ gs.map (Flaw.shift (a.toList.count '\n'))).map (Flaw.problem s)) ∧
    (∀ (s : Settings) (t : String), ∃ fs : List Flaw,
      fileProblems s.allOn t.toUTF8 = fs.map (Flaw.problem s.allOn) ∧
      fileProblems s t.toUTF8 = (fs.filter s.asksFor).map (Flaw.problem s)) ∧
    ∀ (s s' : Settings) (t : String), ∃ fs gs : List Flaw,
      fileProblems s t.toUTF8 = fs.map (Flaw.problem s) ∧ fileProblems s' t.toUTF8 = gs.map (Flaw.problem s') ∧
      ∀ kinds : Flaw → Bool, (∀ f, kinds f = true → s.asksFor f = s'.asksFor f) →
        fs.filter kinds = gs.filter kinds :=
  ⟨Flaw.message_injective, fun s _ b ha => fileProblems_append s b ha, fileProblems_allOn, fileProblems_agree⟩

/-- The settings that ask for tabs at the starts of lines only. -/
def Settings.onlyTabs : Settings :=
  { default with trailingWhitespace := false, finalNewline := false, crlf := false }

/-- A blank before a line feed and a tab behind it. All of it is reported by `default`. -/
theorem fileProblems_local_twoLines : ("a \n".toList.getLast? = some '\n' ∧ ∃ fs gs : List Flaw,
      fileProblems .default "a \n".toUTF8 = fs.map (Flaw.problem .default) ∧
      fileProblems .default "\tb".toUTF8 = gs.map (Flaw.problem .default) ∧
      fileProblems .default ("a \n" ++ "\tb").toUTF8 = (fs ++ gs.map (Flaw.shift 1)).map (Flaw.problem .default)) ∧
    ∃ fs gs : List Flaw, fileProblems .default "a \n\tb".toUTF8 = fs.map (Flaw.problem .default) ∧
      fileProblems .onlyTabs "a \n\tb".toUTF8 = gs.map (Flaw.problem .onlyTabs) ∧
      fs.filter Settings.onlyTabs.asksFor = gs.filter Settings.onlyTabs.asksFor := by
  obtain ⟨-, happend, -, hkinds⟩ := fileProblems_local
  have hend : "a \n".toList.getLast? = some '\n' := by decide
  have hcount : "a \n".toList.count '\n' = 1 := by decide
  refine ⟨⟨hend, hcount ▸ happend .default "a \n" "\tb" hend⟩, ?_⟩
  obtain ⟨fs, gs, hfs, hgs, hsame⟩ := hkinds .default .onlyTabs "a \n\tb"
  exact ⟨fs, gs, hfs, hgs, hsame _ fun f hf => (Settings.asksFor_allOn .default f).trans hf.symm⟩

end DatasetLint.Check.Encoding
