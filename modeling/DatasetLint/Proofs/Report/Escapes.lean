import DatasetLint.Proofs.Text.Span
import DatasetLint.Report.Style

/-!
# What a terminal makes of a text

A terminal takes a text apart into the characters that it shows and the sequences that switch a style, and shows each
character in the style that is on there. A text without the escape character is shown as it stands. A text in a style
is shown in this style, with the plain one before and behind it.
-/

namespace DatasetLint.Report

/-- What a terminal reads: a character to show, or a sequence with its parameters. -/
inductive Signal where
  | shown (c : Char)
  | switch (parameters : List Char)
deriving DecidableEq, Repr

namespace Signal

/-- The digits, the semicolon and what stands beside them. -/
def isParameter (c : Char) : Bool := '0' ≤ c && c ≤ '?'

def spell : Signal → List Char
  | shown c => [c]
  | switch ps => '\x1b' :: '[' :: ps ++ ['m']

def char? : Signal → Option Char
  | shown c => some c
  | switch _ => none

/-- The parameters of the sequence that a text begins with, and the text behind it. -/
def sequence? : List Char → Option (List Char × List Char)
  | '\x1b' :: '[' :: cs =>
    match cs.dropWhile isParameter with
    | 'm' :: rest => some (cs.takeWhile isParameter, rest)
    | _ => none
  | _ => none

theorem sequence?_eq_some_iff {cs ps rest : List Char} :
    sequence? cs = some (ps, rest) ↔ cs = spell (switch ps) ++ rest ∧ ∀ c ∈ ps, isParameter c = true := by
  constructor
  · intro h
    unfold sequence? at h
    split at h
    · rename_i cs
      obtain ⟨as, behind, rfl, htake, hdrop, has, -⟩ := Text.exists_span isParameter cs
      rw [htake, hdrop] at h
      split at h
      · cases h
        exact ⟨by simp [spell], has⟩
      · cases h
    · cases h
  · rintro ⟨rfl, hps⟩
    have hend : isParameter 'm' = false := by decide
    obtain ⟨htake, hdrop⟩ := @Text.span_append_cons _ isParameter ps rest 'm' hps hend
    have htext : spell (switch ps) ++ rest = '\x1b' :: '[' :: (ps ++ 'm' :: rest) := by simp [spell]
    simp only [htext, sequence?, htake, hdrop]

private theorem sequence?_cons_of_ne {c : Char} (hc : c ≠ '\x1b') (cs : List Char) : sequence? (c :: cs) = none := by
  unfold sequence?
  split
  · rename_i heq
    exact absurd (List.head_eq_of_cons_eq heq) hc
  · rfl

private theorem length_lt_of_sequence? {cs ps rest : List Char} (h : sequence? cs = some (ps, rest)) :
    rest.length < cs.length := by
  rw [(sequence?_eq_some_iff.1 h).1, List.length_append]
  simp [spell]

/-- A text as a terminal reads it. An escape character that begins no sequence is shown like any other. -/
def read : List Char → List Signal
  | [] => []
  | c :: cs =>
    match h : sequence? (c :: cs) with
    | some (ps, rest) =>
      have := length_lt_of_sequence? h
      switch ps :: read rest
    | none => shown c :: read cs
termination_by cs => cs.length
decreasing_by
  · exact this
  · exact Nat.lt_succ_self _

/-- The text `cs` without its sequences. -/
def strip (cs : List Char) : List Char := (read cs).filterMap char?

private theorem read_nil : read [] = [] := by
  rw [read]

private theorem read_of_eq_some {cs ps rest : List Char} (h : sequence? cs = some (ps, rest)) :
    read cs = switch ps :: read rest := by
  cases cs with
  | nil => cases h
  | cons c cs =>
    rw [read]
    split
    · rename_i heq
      cases h.symm.trans heq
      rfl
    · rename_i heq
      cases h.symm.trans heq

private theorem read_of_eq_none {c : Char} {cs : List Char} (h : sequence? (c :: cs) = none) :
    read (c :: cs) = shown c :: read cs := by
  rw [read]
  split
  · rename_i heq
    cases h.symm.trans heq
  · rfl

/-- `read` loses nothing of `cs`: what is left out of it are the sequences. -/
theorem flatMap_spell_read (cs : List Char) : (read cs).flatMap spell = cs := by
  induction cs using read.induct with
  | case1 => rw [read_nil, List.flatMap_nil]
  | case2 c cs ps rest h _ ih =>
    rw [read_of_eq_some h, List.flatMap_cons, ih, ← (sequence?_eq_some_iff.1 h).1]
  | case3 c cs h ih =>
    rw [read_of_eq_none h, List.flatMap_cons, ih]
    rfl

private theorem read_spell_switch {ps : List Char} (hps : ∀ c ∈ ps, isParameter c = true) (cs : List Char) :
    read (spell (switch ps) ++ cs) = switch ps :: read cs :=
  read_of_eq_some (sequence?_eq_some_iff.2 ⟨rfl, hps⟩)

/-- A text `w` without the escape character is shown as it stands, whatever follows. -/
theorem read_append {w : List Char} (hw : '\x1b' ∉ w) (cs : List Char) : read (w ++ cs) = w.map shown ++ read cs := by
  induction w with
  | nil => rfl
  | cons c w ih =>
    rw [List.mem_cons, not_or] at hw
    obtain ⟨hc, hw⟩ := hw
    rw [List.cons_append, read_of_eq_none (sequence?_cons_of_ne (Ne.symm hc) _), ih hw]
    rfl

end Signal

namespace Style

open Signal

/-! ## Styles that are on -/

/-- The style behind the sequence `ps` in the style `s`: one without parameters or with a zero switches everything
off. -/
def switched (s : Style) (ps : List Char) : Style := if ps = [] ∨ ps = ['0'] then plain else s ++ [String.ofList ps]

/-- The characters that are shown, each with the style that is on there. -/
def painted (s : Style) : List Signal → List (Char × Style)
  | [] => []
  | shown c :: xs => (c, s) :: painted s xs
  | switch ps :: xs => painted (s.switched ps) xs

/-- The `text` in the style `s`. -/
def paint (s : Style) (text : String) : List (Char × Style) := text.toList.map (·, s)

/-- A style `s` each part of which is switched on by a sequence of its own. -/
def IsProper (s : Style) : Prop :=
  ∀ ps ∈ s, ps.toList.all isParameter = true ∧ ps.toList ≠ [] ∧ ps.toList ≠ ['0']

instance : DecidablePred IsProper := fun s =>
  inferInstanceAs (Decidable (∀ ps ∈ s, ps.toList.all isParameter = true ∧ ps.toList ≠ [] ∧ ps.toList ≠ ['0']))

/-- The `text` in the style `s` as a terminal reads it: if the style is not the plain one, it is switched on before
the text, and everything is switched off behind. -/
def signals (s : Style) (text : String) : List Signal :=
  if s.isEmpty then text.toList.map shown
  else s.map (fun ps => switch ps.toList) ++ text.toList.map shown ++ [switch ['0']]

private theorem toList_sequence (ps : String) : (sequence ps).toList = spell (switch ps.toList) := by
  rw [sequence, String.toList_append, String.toList_append]
  rfl

private theorem read_sequences {s : Style} (hs : s.IsProper) (cs : List Char) :
    read ((String.join (s.map sequence)).toList ++ cs) = s.map (fun ps => switch ps.toList) ++ read cs := by
  induction s with
  | nil => rfl
  | cons ps s ih =>
    obtain ⟨⟨hps, -⟩, hs⟩ := List.forall_mem_cons.1 hs
    rw [List.map_cons, String.join_cons, String.toList_append, toList_sequence, List.append_assoc,
      read_spell_switch (List.all_eq_true.1 hps), ih hs]
    rfl

private theorem read_apply {s : Style} (hs : s.IsProper) {text : String} (htext : '\x1b' ∉ text.toList)
    (cs : List Char) :
    read ((s.apply text).toList ++ cs) = s.signals text ++ read cs := by
  unfold apply signals
  split
  · exact read_append htext cs
  · have hreset : ∀ c ∈ "0".toList, isParameter c = true := List.forall_mem_singleton.2 (by decide)
    rw [String.toList_append, String.toList_append, List.append_assoc, List.append_assoc, read_sequences hs,
      read_append htext, toList_sequence, read_spell_switch hreset]
    simp

private theorem filterMap_shown (cs : List Char) : (cs.map shown).filterMap char? = cs := by
  rw [List.filterMap_map]
  exact List.filterMap_some

private theorem filterMap_signals (s : Style) (text : String) : (s.signals text).filterMap char? = text.toList := by
  unfold signals
  split
  · exact filterMap_shown _
  · have hswitches : (s.map fun ps => switch ps.toList).filterMap char? = [] := by
      rw [List.filterMap_map]
      exact List.filterMap_eq_nil_iff.2 fun _ _ => rfl
    rw [List.filterMap_append, List.filterMap_append, hswitches, filterMap_shown]
    exact List.append_nil _

private theorem painted_shown (s : Style) (cs : List Char) (xs : List Signal) :
    s.painted (cs.map shown ++ xs) = cs.map (·, s) ++ s.painted xs := by
  induction cs with
  | nil => rfl
  | cons c cs ih =>
    rw [List.map_cons, List.cons_append, painted, ih]
    rfl

/-- The parts of the style `s` are switched on one after the other. -/
theorem painted_switches {s : Style} (hs : s.IsProper) (t : Style) (xs : List Signal) :
    t.painted (s.map (fun ps => switch ps.toList) ++ xs) = painted (t ++ s) xs := by
  induction s generalizing t with
  | nil => rw [List.append_nil]; rfl
  | cons ps s ih =>
    obtain ⟨⟨-, hnone, hzero⟩, hs⟩ := List.forall_mem_cons.1 hs
    have hswitched : t.switched ps.toList = t ++ [ps] := by
      rw [switched, if_neg (not_or.2 ⟨hnone, hzero⟩), String.ofList_toList]
    rw [List.map_cons, List.cons_append, painted, ih hs, hswitched, List.append_assoc]
    rfl

/-- The `text` in the style `s` is shown in this style, and the plain one is on behind it. -/
theorem painted_signals {s : Style} (hs : s.IsProper) (text : String) (xs : List Signal) :
    plain.painted (s.signals text ++ xs) = s.paint text ++ plain.painted xs := by
  unfold signals paint
  split
  · rename_i hempty
    rw [List.isEmpty_iff.1 hempty]
    exact painted_shown plain _ xs
  · rw [List.append_assoc, List.append_assoc, painted_switches hs, painted_shown]
    rfl

/-! ## Texts of several styles -/

variable {xs : List (Style × String)}

theorem read_parts (hxs : ∀ x ∈ xs, x.1.IsProper ∧ '\x1b' ∉ x.2.toList) :
    read (xs.flatMap fun x => (x.1.apply x.2).toList) = xs.flatMap fun x => x.1.signals x.2 := by
  induction xs with
  | nil => exact read_nil
  | cons x xs ih =>
    obtain ⟨⟨hproper, htext⟩, hxs⟩ := List.forall_mem_cons.1 hxs
    rw [List.flatMap_cons, List.flatMap_cons, read_apply hproper htext, ih hxs]

theorem painted_parts (hxs : ∀ x ∈ xs, x.1.IsProper) :
    plain.painted (xs.flatMap fun x => x.1.signals x.2) = xs.flatMap fun x => x.1.paint x.2 := by
  induction xs with
  | nil => rfl
  | cons x xs ih =>
    obtain ⟨hproper, hxs⟩ := List.forall_mem_cons.1 hxs
    rw [List.flatMap_cons, List.flatMap_cons, painted_signals hproper, ih hxs]

theorem filterMap_parts (xs : List (Style × String)) :
    (xs.flatMap fun x => x.1.signals x.2).filterMap char? = xs.flatMap (·.2.toList) := by
  rw [List.filterMap_flatMap]
  simp only [filterMap_signals]

end Style

end DatasetLint.Report
