import DatasetLint.Proofs.Yaml.Block
import DatasetLint.Proofs.Yaml.Quoted
import DatasetLint.Yaml.Writer

/-!
# Styles of scalars

The style that is chosen for a text always admits it. So the text that is written for a scalar holds nothing
but printable characters, ends a line only where a block does, and on a key's line is never long.
-/

namespace DatasetLint.Yaml

open Writer Token

/-- What the text `cs` has to be to be written in a style, on a key's line or elsewhere. -/
inductive Admits (asKey : Bool) (cs : List Char) : Style → Prop
  | plain (hne : cs ≠ []) (h : plainAllowed cs = true) : Admits asKey cs .plain
  | singleQuoted (hnl : '\n' ∉ cs) (hkey : asKey = true → cs.any endsLine = false) (h : singleAllowed cs = true) :
    Admits asKey cs .singleQuoted
  | doubleQuoted : Admits asKey cs .doubleQuoted
  | literal (hkey : asKey = false) (h : blockAllowed cs = true) : Admits asKey cs .literal

private theorem chosen_literal (asKey : Bool) (cs : List Char) :
    chosen asKey .literal cs = if asKey || !blockAllowed cs then .doubleQuoted else .literal := by
  cases asKey <;> cases hline : cs.any endsLine <;> cases hblock : blockAllowed cs <;> simp [chosen, hline, hblock]

private theorem chosen_singleQuoted (asKey : Bool) (cs : List Char) : chosen asKey .singleQuoted cs =
    if asKey && cs.any endsLine || !singleAllowed cs then .doubleQuoted else .singleQuoted := by
  cases hkey : asKey && cs.any endsLine <;> cases hsingle : singleAllowed cs <;> simp [chosen, hkey, hsingle]

private theorem chosen_plain (asKey : Bool) (cs : List Char) : chosen asKey .plain cs =
    if asKey && cs.any endsLine then .doubleQuoted
    else if plainAllowed cs && !(cs.isEmpty && asKey) then .plain
    else if singleAllowed cs then .singleQuoted else .doubleQuoted := by
  cases hkey : asKey && cs.any endsLine <;> cases hplain : plainAllowed cs <;> cases hsingle : singleAllowed cs <;>
    cases hempty : cs.isEmpty && asKey <;> simp [chosen, hkey, hplain, hsingle, hempty]

/-- Several lines are `wanted` as a block, and no text as a plain scalar without characters. -/
theorem wanted_cases (t : String) : wanted t = .literal ∨
    '\n' ∉ t.toList ∧ (wanted t = .plain ∧ t.toList ≠ [] ∨ wanted t = .singleQuoted) := by
  rw [wanted]
  split
  · exact .inl rfl
  · rename_i hnl
    refine .inr ⟨by simpa using hnl, ?_⟩
    by_cases hne : t.toList = []
    · have : t = "" := String.toList_inj.1 hne
      subst this
      exact .inr rfl
    · split
      · split
        · exact .inr rfl
        · exact .inl ⟨rfl, hne⟩
      · exact .inr rfl

/-- The `chosen` style admits the text `t`. -/
theorem admits_chosen (asKey : Bool) (t : String) : Admits asKey t.toList (chosen asKey (wanted t) t.toList) := by
  -- every style that does not admit the text gives way to one that does
  rcases wanted_cases t with h | ⟨hnl, ⟨h, hne⟩ | h⟩
  · rw [h, chosen_literal]
    split
    · exact .doubleQuoted
    · rename_i hblock
      simp only [Bool.or_eq_true, Bool.not_eq_true', not_or, Bool.not_eq_true, Bool.not_eq_false] at hblock
      exact .literal hblock.1 hblock.2
  · rw [h, chosen_plain]
    split
    · exact .doubleQuoted
    · rename_i hkey
      split
      · rename_i hplain
        exact .plain hne (Bool.and_eq_true_iff.1 hplain).1
      · split
        · rename_i hsingle
          exact .singleQuoted hnl (fun e => by simpa [e] using hkey) hsingle
        · exact .doubleQuoted
  · rw [h, chosen_singleQuoted]
    split
    · exact .doubleQuoted
    · rename_i hsingle
      simp only [Bool.or_eq_true, Bool.not_eq_true', not_or, Bool.not_eq_true, Bool.not_eq_false] at hsingle
      exact .singleQuoted hnl (fun e => by simpa [e] using hsingle.1) hsingle.2

/-! ## What is written -/

theorem singleAllowed_iff {cs : List Char} : singleAllowed cs = true ↔
    Printed cs ∧ hasPair (· == ' ') endsLine cs = false ∧ hasPair endsLine (· == ' ') cs = false := by
  simp only [singleAllowed, Bool.not_eq_true', Bool.or_eq_false_iff, needsEscape_iff, and_assoc]

theorem blockAllowed_imp {cs : List Char} (h : blockAllowed cs = true) : cs ≠ [] ∧ Printed cs := by
  simp only [blockAllowed, Bool.not_eq_true', Bool.or_eq_false_iff, needsEscape_iff] at h
  exact ⟨by simpa using h.1.1, h.2.1⟩

private theorem printed_singleChar {c : Char} (h : isPrintable c = true) : Printed (singleChar c) := by
  rw [singleChar]
  split
  · simp only [printed_cons, printed_nil]
    decide
  · simpa using h

private theorem printed_singleBody (i : Nat) (atBreak : Bool) {cs : List Char} (h : Printed cs) :
    Printed (singleBody i atBreak cs) := by
  induction cs generalizing atBreak with
  | nil =>
    rw [singleBody]
    split
    · exact printed_spaces i
    · exact printed_nil
  | cons c cs ih =>
    rw [printed_cons] at h
    by_cases hsp : c = ' '
    · subst hsp
      rw [singleBody_space]
      exact printed_cons.2 ⟨h.1, ih _ h.2⟩
    · cases hbr : isBreak c with
      | true =>
        rw [singleBody_break h.1 hbr]
        exact printed_cons.2 ⟨h.1, ih _ h.2⟩
      | false =>
        rw [singleBody_char h.1 hbr hsp]
        refine printed_append.2 ⟨?_, printed_append.2 ⟨printed_singleChar h.1, ih _ h.2⟩⟩
        split
        · exact printed_spaces i
        · exact printed_nil

private theorem printed_blockBody (i : Nat) (atBreak : Bool) {cs : List Char} (h : Printed cs) :
    Printed (blockBody i atBreak cs) := by
  induction cs generalizing atBreak with
  | nil => exact printed_nil
  | cons c cs ih =>
    rw [printed_cons] at h
    rw [blockBody]
    split
    · exact printed_cons.2 ⟨h.1, ih _ h.2⟩
    · refine printed_append.2 ⟨?_, printed_cons.2 ⟨h.1, ih _ h.2⟩⟩
      split
      · exact printed_spaces i
      · exact printed_nil

private theorem printed_flatMap_doubleChar (cs : List Char) : Printed (cs.flatMap doubleChar) := by
  intro d hd
  obtain ⟨c, -, hd⟩ := List.mem_flatMap.1 hd
  exact (isPrintable_of_mem_doubleChar hd).1

private theorem printed_chompingText (ch : Chomping) : Printed (chompingText ch) := by
  cases ch <;> simp [chompingText, isPrintable]

private theorem printed_indentHint (cs : List Char) : Printed (indentHint cs) := by
  cases cs with
  | nil => exact printed_nil
  | cons c cs =>
    rw [indentHint]
    split
    · intro d hd
      have : d = '2' := by simpa [show Nat.toDigits 10 indentStep = ['2'] from rfl] using hd
      rw [this]
      decide
    · exact printed_nil

/-- Only printable characters are written for a scalar. -/
theorem printed_scalarText {asKey : Bool} {cs : List Char} {style : Style} (h : Admits asKey cs style) (i : Nat) :
    Printed (scalarText i style cs) := by
  cases h with
  | plain hne h => exact (plainAllowed_iff.1 h).2.1
  | singleQuoted hnl hkey h =>
    refine printed_cons.2 ⟨by decide, printed_append.2 ⟨?_, by simp [isPrintable]⟩⟩
    exact printed_singleBody i false (singleAllowed_iff.1 h).1
  | doubleQuoted =>
    refine printed_cons.2 ⟨by decide, printed_append.2 ⟨?_, by simp [isPrintable]⟩⟩
    exact printed_flatMap_doubleChar cs
  | literal hkey h =>
    obtain ⟨hne, hprint⟩ := blockAllowed_imp h
    rw [scalarText, chompHint_eq hne hprint]
    refine printed_cons.2 ⟨by decide, printed_append.2 ⟨?_, printed_cons.2 ⟨by decide, ?_⟩⟩⟩
    · exact printed_append.2 ⟨printed_indentHint cs, printed_chompingText _⟩
    · exact printed_blockBody i true hprint

/-! ## Keys on one line -/

private theorem singleBody_eq_flatMap (i : Nat) {cs : List Char} (hprint : Printed cs)
    (hline : ∀ c ∈ cs, isBreak c = false) : singleBody i false cs = cs.flatMap singleChar := by
  induction cs with
  | nil => rfl
  | cons c cs ih =>
    rw [printed_cons] at hprint
    rw [List.forall_mem_cons] at hline
    rw [List.flatMap_cons, ← ih hprint.2 hline.2]
    by_cases hsp : c = ' '
    · subst hsp
      rfl
    · exact singleBody_char hprint.1 hline.1 hsp i false cs

/-- A key `cs` of one line is written on one line. -/
theorem not_isBreak_scalarText {cs : List Char} {style : Style} (h : Admits true cs style)
    (hline : ∀ c ∈ cs, isBreak c = false) (i : Nat) : ∀ c ∈ scalarText i style cs, isBreak c = false := by
  have hquoted : ∀ (q : Char) (f : Char → List Char), isBreak q = false →
      (∀ c ∈ cs, ∀ d ∈ f c, isBreak d = false) → ∀ c ∈ q :: cs.flatMap f ++ [q], isBreak c = false := by
    intro q f hq hf c hc
    simp only [List.cons_append, List.mem_cons, List.mem_append, List.mem_flatMap, List.not_mem_nil, or_false] at hc
    rcases hc with rfl | ⟨d, hd, hc⟩ | rfl
    · exact hq
    · exact hf d hd c hc
    · exact hq
  cases h with
  | plain hne h => exact hline
  | singleQuoted hnl hkey h =>
    rw [scalarText, singleBody_eq_flatMap i (singleAllowed_iff.1 h).1 hline]
    exact hquoted '\'' singleChar rfl fun c hc => not_isBreak_singleChar (hline c hc)
  | doubleQuoted => exact hquoted '"' doubleChar rfl fun c _ d hd => (isPrintable_of_mem_doubleChar hd).2
  | literal hkey => cases hkey

private theorem length_flatMap_le {f : Char → List Char} (h : ∀ c, (f c).length ≤ 4 * c.utf8Size) (cs : List Char) :
    (cs.flatMap f).length ≤ 4 * (String.ofList cs).utf8ByteSize := by
  induction cs with
  | nil => exact Nat.zero_le _
  | cons c cs ih =>
    have hc := h c
    rw [List.flatMap_cons, List.length_append, String.ofList_cons, String.utf8ByteSize_append,
      String.utf8ByteSize_singleton]
    omega

/-- A short key `cs` is written in few characters. -/
theorem length_scalarText_le {cs : List Char} {style : Style} (h : Admits true cs style)
    (hline : ∀ c ∈ cs, isBreak c = false) (i : Nat) :
    (scalarText i style cs).length ≤ 4 * (String.ofList cs).utf8ByteSize + 2 := by
  -- between quotes an octet takes four characters at most
  have hquoted : ∀ (q : Char) (f : Char → List Char), (∀ c, (f c).length ≤ 4 * c.utf8Size) →
      (q :: cs.flatMap f ++ [q]).length ≤ 4 * (String.ofList cs).utf8ByteSize + 2 := by
    intro q f hf
    have := length_flatMap_le hf cs
    rw [List.length_append, List.length_cons, List.length_singleton]
    omega
  have hpos : ∀ c : Char, 0 < c.utf8Size := Char.utf8Size_pos
  cases h with
  | plain hne h =>
    have := length_flatMap_le (f := fun c => [c]) (fun c => by have := hpos c; rw [List.length_singleton]; omega) cs
    rw [List.flatMap_singleton'] at this
    exact Nat.le_add_right_of_le this
  | singleQuoted hnl hkey h =>
    rw [scalarText, singleBody_eq_flatMap i (singleAllowed_iff.1 h).1 hline]
    refine hquoted '\'' singleChar fun c => ?_
    have := hpos c
    rw [singleChar]
    split
    · exact Nat.le_trans (by decide : 2 ≤ 4) (by omega)
    · rw [List.length_singleton]
      omega
  | doubleQuoted => exact hquoted '"' doubleChar length_doubleChar_le
  | literal hkey => cases hkey

/-! ## How it begins and ends -/

theorem scalarText_ne_nil {asKey : Bool} {cs : List Char} {style : Style} (h : Admits asKey cs style) (i : Nat) :
    scalarText i style cs ≠ [] := by
  cases h with
  | plain hne h => exact hne
  | _ => exact List.cons_ne_nil _ _

theorem lineEnd_append_singleton (w : List Char) (c : Char) :
    lineEnd (w ++ [c]) = if endsLine c then [] else ['\n'] := by
  simp [lineEnd]

private theorem getLast?_blockBody (i : Nat) (atBreak : Bool) {cs : List Char} (hne : cs ≠ []) :
    (blockBody i atBreak cs).getLast? = cs.getLast? := by
  induction cs generalizing atBreak with
  | nil => exact absurd rfl hne
  | cons c cs ih =>
    have hlast : ∀ b, (c :: blockBody i b cs).getLast? = (c :: cs).getLast? := by
      intro b
      cases cs with
      | nil => rfl
      | cons d cs => rw [List.getLast?_cons, List.getLast?_cons, ih b (List.cons_ne_nil d cs)]
    rw [blockBody]
    split
    · exact hlast true
    · rw [List.getLast?_append, hlast false, Option.or_of_isSome]
      simp

/-- A block ends a line where its text does, and any other scalar does not. -/
theorem lineEnd_scalarText {asKey : Bool} {cs : List Char} {style : Style} (h : Admits asKey cs style) (i : Nat) :
    lineEnd (scalarText i style cs) =
      if style = .literal then blockEnding (finalBreaks 1 cs) else ['\n'] := by
  cases h with
  | plain hne h =>
    obtain ⟨-, hprint, hline, -⟩ := plainAllowed_iff.1 h
    have hlast : endsLine (cs.getLast hne) = false := by
      rw [endsLine_eq_isBreak (hprint _ (List.getLast_mem hne))]
      exact hline _ (List.getLast_mem hne)
    simp [scalarText, lineEnd, List.getLast?_eq_some_getLast hne, hlast]
  | singleQuoted hnl hkey h => exact lineEnd_append_singleton ('\'' :: singleBody i false cs) '\''
  | doubleQuoted => exact lineEnd_append_singleton ('"' :: cs.flatMap doubleChar) '"'
  | literal hkey h =>
    obtain ⟨hne, hprint⟩ := blockAllowed_imp h
    have hlast : (scalarText i .literal cs).getLast? = cs.getLast? := by
      rw [scalarText, List.getLast?_append, List.getLast?_cons, getLast?_blockBody i true hne,
        List.getLast?_eq_some_getLast hne]
      rfl
    obtain ⟨ds, c, rfl⟩ : ∃ ds c, cs = ds ++ [c] :=
      ⟨cs.dropLast, cs.getLast hne, (List.dropLast_concat_getLast hne).symm⟩
    have hc : isPrintable c = true := hprint c (by simp)
    rw [lineEnd, hlast, finalBreaks_append, List.getLast?_concat, if_pos rfl]
    simp only [finalBreaks, Option.any_some, endsLine_eq_isBreak hc, blockEnding]
    by_cases hbreak : isBreak c = true <;> simp [hbreak]

end DatasetLint.Yaml
