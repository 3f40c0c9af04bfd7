import DatasetLint.Check.Prefixes
import DatasetLint.Proofs.Decimal.Integer
import DatasetLint.Proofs.Problems.History
import DatasetLint.Proofs.Report.Escapes
import DatasetLint.Proofs.Text.Pieces
import DatasetLint.Report.Human

/-!
# The report for people

The report is made of parts, each of them in one style. Its colors change nothing but styles, and no message is in one.
Its texts are printed as they are, so there is a line for each problem as long as no text has a line feed: what stands
behind a line feed is a line of its own, which can look like the line of another problem.
-/

namespace DatasetLint.Report.Human

/-! ## Parts -/

/-- The line that counts the problems of `s`, without its end. -/
def tally (s : ProblemTable) : String :=
  "Found " ++ toString (s.count .error) ++ " error(s) and " ++ toString (s.count .warning) ++
    " warning(s) in " ++ toString s.resourceCount ++ " resource(s)"

private theorem summary_eq (s : ProblemTable) : summary s = tally s ++ "\n" := by
  simp only [summary, tally, String.append_assoc]
  rfl

/-- The numbers have digits and nothing else, so that `c` is not in the `tally`. -/
theorem notMem_tally {c : Char} (hc : c.isDigit = false)
    (hwords : ∀ w ∈ ["Found ", " error(s) and ", " warning(s) in ", " resource(s)"], c ∉ w.toList) (s : ProblemTable) :
    c ∉ (tally s).toList := by
  have hnumber : ∀ n : Nat, c ∉ (toString n).toList := by
    intro n
    rw [Decimal.toList_toString]
    exact Decimal.notMem_natDigits hc n
  simp only [tally, String.toList_append, List.mem_append, not_or]
  simp only [List.forall_mem_cons] at hwords
  exact ⟨⟨⟨⟨⟨⟨hwords.1, hnumber _⟩, hwords.2.1⟩, hnumber _⟩, hwords.2.2.1⟩, hnumber _⟩, hwords.2.2.2.1⟩

/-- What follows the lines of the problems, if there are any. -/
def ending (s : ProblemTable) : String := if s.anyProblem then "\n" ++ summary s else ""

/-- The parts of the line of `f` with their styles in the palette `p`. -/
def lineParts (p : Palette) (f : Finding) : List (Style × String) :=
  [(p.severity f.problem.severity, f.problem.severity.word), (p.resource, "[" ++ f.resource ++ "]"),
    (.plain, ": " ++ f.problem.message ++ "\n")]

/-- The parts of a report with their styles. -/
def parts (p : Palette) (s : ProblemTable) : List (Style × String) :=
  s.toList.flatMap (lineParts p) ++ [(.plain, ending s)]

private theorem toList_line (p : Palette) (f : Finding) :
    (line p f).toList = (lineParts p f).flatMap fun x => (x.1.apply x.2).toList := by
  simp only [line, lineParts, Style.apply, Style.plain, String.toList_append, List.flatMap_cons, List.flatMap_nil]
  simp

private theorem flatMap_parts {α : Type} (p : Palette) (s : ProblemTable) (g : Style × String → List α) :
    (parts p s).flatMap g = (s.toList.flatMap fun f => (lineParts p f).flatMap g) ++ g (.plain, ending s) := by
  rw [parts, List.flatMap_append, List.flatMap_assoc, List.flatMap_singleton]

private theorem toList_render (color : Bool) (s : ProblemTable) :
    (render color s).toList = (parts (.ofColor color) s).flatMap fun x => (x.1.apply x.2).toList := by
  have hlines : (s.toList.map (line (.ofColor color))).flatMap String.toList =
      s.toList.flatMap fun f => (lineParts (.ofColor color) f).flatMap fun x => (x.1.apply x.2).toList := by
    rw [List.flatMap_map]
    exact List.flatMap_congr fun f _ => toList_line _ f
  rw [flatMap_parts, render, String.toList_append, String.toList_join, hlines]
  rfl

/-- Without colors the report is its `parts` in a row, whatever their styles would be. -/
theorem toList_render_false (p : Palette) (s : ProblemTable) :
    (render false s).toList = (parts p s).flatMap (·.2.toList) := by
  have hplain : ∀ v : Severity, (Palette.ofColor false).severity v = .plain := by
    intro v
    cases v <;> rfl
  rw [toList_render, flatMap_parts, flatMap_parts]
  simp only [lineParts, hplain]
  rfl

/-! ## Colors -/

private theorem isProper_ofColor (color : Bool) (v : Severity) :
    ((Palette.ofColor color).severity v).IsProper ∧ (Palette.ofColor color).resource.IsProper := by
  cases color with
  | false => cases v <;> decide +kernel
  | true => cases v <;> decide +kernel

private theorem escape_notMem_ending (s : ProblemTable) : '\x1b' ∉ (ending s).toList := by
  have htally := notMem_tally (c := '\x1b') (by decide) (by decide) s
  unfold ending
  split
  · rw [summary_eq, String.toList_append, String.toList_append, List.mem_append, List.mem_append, not_or, not_or]
    exact ⟨by decide, htally, by decide⟩
  · decide

/-- The `parts` of a report are in proper styles, and only texts of problems can have an escape character. -/
theorem parts_spec (color : Bool) {s : ProblemTable}
    (h : ∀ f ∈ s.toList, '\x1b' ∉ f.resource.toList ∧ '\x1b' ∉ f.problem.message.toList) :
    ∀ x ∈ parts (.ofColor color) s, x.1.IsProper ∧ '\x1b' ∉ x.2.toList := by
  intro x hx
  rcases List.mem_append.1 hx with hx | hx
  · obtain ⟨f, hf, hx⟩ := List.mem_flatMap.1 hx
    obtain ⟨hresource, hmessage⟩ := h f hf
    obtain ⟨hseverity, hdim⟩ := isProper_ofColor color f.problem.severity
    have hword : ∀ v : Severity, '\x1b' ∉ v.word.toList := by
      intro v
      cases v <;> decide
    simp only [lineParts, List.mem_cons, List.not_mem_nil, or_false] at hx
    rcases hx with rfl | rfl | rfl
    · exact ⟨hseverity, hword _⟩
    · refine ⟨hdim, ?_⟩
      simp [hresource]
    · refine ⟨List.forall_mem_nil _, ?_⟩
      simp [hmessage]
  · rw [List.mem_singleton] at hx
    subst hx
    exact ⟨List.forall_mem_nil _, escape_notMem_ending s⟩

section Escapes

variable {s : ProblemTable} (h : ∀ f ∈ s.toList, '\x1b' ∉ f.resource.toList ∧ '\x1b' ∉ f.problem.message.toList)

include h

/-- A terminal reads the colored report as its `parts`, each in its style. -/
theorem read_render : Signal.read (render true s).toList =
    (parts (.ofColor true) s).flatMap fun x => x.1.signals x.2 := by
  rw [toList_render]
  exact Style.read_parts (parts_spec true h)

private theorem strip_render : Signal.strip (render true s).toList = (render false s).toList := by
  rw [Signal.strip, read_render h, Style.filterMap_parts, toList_render_false (.ofColor true)]

/-- It shows each of the `parts` in its own style. -/
theorem painted_render : Style.plain.painted (Signal.read (render true s).toList) =
    (parts (.ofColor true) s).flatMap fun x => x.1.paint x.2 := by
  rw [read_render h]
  exact Style.painted_parts fun x hx => (parts_spec true h x hx).1

end Escapes

/-- If no text of a problem has an escape character, the colored report under `strip` is the report without colors.
What a terminal has `read` of it are the `signals` of all parts: a severity and a resource each in a style that is
switched off behind it, before the message begins. So it shows all of a message in `plain`. -/
theorem color_decorates {s : ProblemTable}
    (h : ∀ f ∈ s.toList, '\x1b' ∉ f.resource.toList ∧ '\x1b' ∉ f.problem.message.toList) :
    let p := Palette.ofColor true
    Signal.strip (render true s).toList = (render false s).toList ∧
    (Signal.read (render true s).toList).flatMap Signal.spell = (render true s).toList ∧
    Signal.read (render true s).toList =
      (s.toList.flatMap fun f => (p.severity f.problem.severity).signals f.problem.severity.word ++
        p.resource.signals ("[" ++ f.resource ++ "]") ++ Style.plain.signals (": " ++ f.problem.message ++ "\n")) ++
        Style.plain.signals (ending s) ∧
    Style.plain.painted (Signal.read (render true s).toList) =
      (s.toList.flatMap fun f => (p.severity f.problem.severity).paint f.problem.severity.word ++
        p.resource.paint ("[" ++ f.resource ++ "]") ++ Style.plain.paint (": " ++ f.problem.message ++ "\n")) ++
        Style.plain.paint (ending s) := by
  intro p
  refine ⟨strip_render h, Signal.flatMap_spell_read _, ?_, ?_⟩
  · rw [read_render h, flatMap_parts]
    simp [lineParts, p]
  · rw [painted_render h, flatMap_parts]
    simp [lineParts, p]

/-- Texts with brackets, digits and an m, which are no sequences without the escape character. -/
def bracketed : ProblemTable := ProblemTable.empty.push "1m.ttl" ⟨.error, "[0m[2m"⟩

theorem color_decorates_bracketed :
    (∀ f ∈ bracketed.toList, '\x1b' ∉ f.resource.toList ∧ '\x1b' ∉ f.problem.message.toList) ∧
    (render true bracketed).toList =
      ("\x1b[31m\x1b[1merror\x1b[0m\x1b[2m[1m.ttl]\x1b[0m: [0m[2m\n\n" ++ summary bracketed).toList ∧
    Signal.strip (render true bracketed).toList =
      ("error[1m.ttl]: [0m[2m\n\n" ++ summary bracketed).toList := by
  have htexts : ∀ f ∈ bracketed.toList, '\x1b' ∉ f.resource.toList ∧ '\x1b' ∉ f.problem.message.toList := by
    decide +kernel
  refine ⟨htexts, by decide +kernel, ?_⟩
  rw [(color_decorates htexts).1]
  decide +kernel

/-! ## Lines -/

/-- The line of the problem `f`, without its end. -/
def entry (f : Finding) : List Char :=
  (f.problem.severity.word ++ "[" ++ f.resource ++ "]: " ++ f.problem.message).toList

/-- The lines that are due: an `entry` for each problem, and then an empty one and the `tally`. Without problems
there are none. -/
def lines (s : ProblemTable) : List (List Char) :=
  if s.toList = [] then [] else s.toList.map entry ++ [[], (tally s).toList]

/-- The texts of the problems `fs`: their resources and messages. -/
def texts (fs : List Finding) : List Char := fs.flatMap fun f => f.resource.toList ++ f.problem.message.toList

/-- The line of `f` has the line feeds of its texts. -/
theorem count_entry (f : Finding) :
    (entry f).count '\n' = f.resource.toList.count '\n' + f.problem.message.toList.count '\n' := by
  have hword : ∀ v : Severity, v.word.toList.count '\n' = 0 := by
    intro v
    cases v <;> decide
  have hopening : "[".toList.count '\n' = 0 := by decide
  have hclosing : "]: ".toList.count '\n' = 0 := by decide
  simp only [entry, String.toList_append, List.count_append, hword, hopening, hclosing]
  omega

theorem lineFeed_notMem_entry_iff {f : Finding} :
    '\n' ∉ entry f ↔ '\n' ∉ f.resource.toList ∧ '\n' ∉ f.problem.message.toList := by
  rw [← List.count_eq_zero, count_entry, Nat.add_eq_zero_iff, List.count_eq_zero, List.count_eq_zero]

private theorem lineFeed_notMem_tally (s : ProblemTable) : '\n' ∉ (tally s).toList :=
  notMem_tally (by decide) (by decide) s

private theorem length_lines (s : ProblemTable) :
    (lines s).length = if s.toList = [] then 0 else s.toList.length + 2 := by
  unfold lines
  split
  · rfl
  · rw [List.length_append, List.length_map]
    rfl

private theorem count_entries (fs : List Finding) : (fs.map entry).flatten.count '\n' = (texts fs).count '\n' := by
  induction fs with
  | nil => rfl
  | cons f fs ih =>
    have htexts : texts (f :: fs) = f.resource.toList ++ f.problem.message.toList ++ texts fs := rfl
    rw [List.map_cons, List.flatten_cons, List.count_append, count_entry, ih, htexts, List.count_append,
      List.count_append]

/-- The `lines` that are due have the line feeds of the `texts` of all problems. -/
theorem count_flatten_lines (s : ProblemTable) : (lines s).flatten.count '\n' = (texts s.toList).count '\n' := by
  unfold lines
  split
  · rename_i hnone
    rw [hnone]
    rfl
  · have hrest : [[], (tally s).toList].flatten.count '\n' = 0 := by
      simpa using List.count_eq_zero.2 (lineFeed_notMem_tally s)
    rw [List.flatten_append, List.count_append, count_entries, hrest, Nat.add_zero]

theorem forall_mem_lines_iff {s : ProblemTable} :
    (∀ l ∈ lines s, '\n' ∉ l) ↔ ∀ f ∈ s.toList, '\n' ∉ f.resource.toList ∧ '\n' ∉ f.problem.message.toList := by
  have hlines : (∀ l ∈ lines s, '\n' ∉ l) ↔ ∀ f ∈ s.toList, '\n' ∉ entry f := by
    unfold lines
    split
    · rename_i hnone
      simp [hnone]
    · have htally := lineFeed_notMem_tally s
      simp only [List.forall_mem_append, List.forall_mem_map, List.forall_mem_cons]
      simp [htally]
  rw [hlines]
  exact forall₂_congr fun f _ => lineFeed_notMem_entry_iff

private theorem toList_render_eq_lines (s : ProblemTable) :
    (render false s).toList = (lines s).flatMap (· ++ ['\n']) := by
  have hline : ∀ f : Finding, (lineParts (.ofColor false) f).flatMap (·.2.toList) = entry f ++ ['\n'] := by
    intro f
    simp [lineParts, entry]
  have hany := s.anyProblem_iff_toList
  rw [toList_render_false (.ofColor false), flatMap_parts]
  simp only [hline, ending, lines]
  by_cases hnone : s.toList = []
  · rw [if_pos hnone, if_neg fun hsome => hany.1 hsome hnone, hnone]
    rfl
  · rw [if_neg hnone, if_pos (hany.2 hnone), List.flatMap_append, List.flatMap_map, summary_eq]
    simp

/-- The report has a line feed at the end of each of the `lines` and those of the `texts`. -/
theorem count_render (s : ProblemTable) :
    (render false s).toList.count '\n' = (lines s).length + (texts s.toList).count '\n' := by
  rw [toList_render_eq_lines, Text.count_ended, count_flatten_lines]

/-- Cut at its line feeds, the report gives the `lines` exactly if no text has one. -/
theorem pieces_render_iff (s : ProblemTable) : Text.pieces (· == '\n') (render false s).toList = lines s ++ [[]] ↔
    ∀ f ∈ s.toList, '\n' ∉ f.resource.toList ∧ '\n' ∉ f.problem.message.toList := by
  rw [toList_render_eq_lines, Text.pieces_ended_eq_iff, forall_mem_lines_iff]

/-- The report without colors is made of `lines` that end with a line feed, of which there are none without
problems: one for each problem, in the order of the `octets` of resources and as `s.get` has them, then an empty one
and the one that counts them. Besides, there are the line feeds in the `texts` of problems, which are printed as
they are. So the `pieces` that are read are the `lines` that are due exactly if no text has a line feed. -/
theorem lines_of_report (s : ProblemTable) :
    (s.resources.Pairwise fun q r => List.Lex (· < ·) (Text.Utf8.octets q) (Text.Utf8.octets r)) ∧
    s.toList = s.resources.flatMap (fun r => (s.get r).map (Finding.mk r)) ∧
    (render false s).toList = (lines s).flatMap (· ++ ['\n']) ∧
    (lines s).length = (if s.toList = [] then 0 else s.toList.length + 2) ∧
    (render false s).toList.count '\n' = (lines s).length + (texts s.toList).count '\n' ∧
    (Text.pieces (· == '\n') (render false s).toList = lines s ++ [[]] ↔
      ∀ f ∈ s.toList, '\n' ∉ f.resource.toList ∧ '\n' ∉ f.problem.message.toList) :=
  ⟨s.pairwise_octets, s.toList_eq_flatMap_get, toList_render_eq_lines s, length_lines s, count_render s,
    pieces_render_iff s⟩

/-- A section for the check of prefixes with a key of two lines. -/
def forging : Config.Parameters :=
  { Config.Parameters.default with
    validation := .mapping [("prefix", .mapping [("x\nerror[a.ttl]: forged", .scalar "1")])] }

/-- The only problem of `forging` is that the key is unknown. It makes four lines, and one of them looks like that
of a problem of a resource that has none. -/
theorem lines_of_report_forging :
    let s := Check.runAll [Check.prefixes] ⟨forging, ".", ⟨.directory [], []⟩⟩ .empty
    s.toList = [⟨"runner", .error, "prefix: invalid configuration: unknown key \x60x\nerror[a.ttl]: forged\x60"⟩] ∧
    s.get "a.ttl" = [] ∧
    (render false s).toList.count '\n' = 4 ∧
    "error[a.ttl]: forged\x60".toList ∈ Text.pieces (· == '\n') (render false s).toList ∧
    Text.pieces (· == '\n') (render false s).toList ≠ lines s ++ [[]] := by
  decide +kernel

end DatasetLint.Report.Human
