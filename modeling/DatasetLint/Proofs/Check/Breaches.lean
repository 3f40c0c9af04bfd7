import DatasetLint.Proofs.Check.Expression
import DatasetLint.Proofs.Check.Flaws

/-!
# Breaches of rules for prefixes

The lines of a text that declare a prefix are held one after the other against all rules. A declaration and a rule
agree on both prefix and namespace or on neither, or else the declaration breaks the rule.
-/

namespace DatasetLint.Check.Prefixes

open Encoding (IsLine content)

/-! ## Lines -/

private theorem lines_of_notMem {l : List Char} (hne : l ≠ []) (hl : '\n' ∉ l) : lines l = [l] := by
  have hfilter : [l].filter (!·.isEmpty) = [l] :=
    List.filter_cons_of_pos (Bool.not_eq_true' _ ▸ List.isEmpty_eq_false_iff.2 hne)
  rw [lines, Text.pieces_of_notMem hl]
  exact hfilter

private theorem lines_append_cons {l : List Char} (hl : '\n' ∉ l) (rest : List Char) :
    lines (l ++ '\n' :: rest) = content l true :: lines rest := by
  obtain ⟨p, ps, hrest⟩ := List.exists_cons_of_ne_nil (Text.pieces_ne_nil (· == '\n') rest)
  have hcontent : content l true = if l.getLast? == some '\r' then l.dropLast else l := by simp [content]
  rw [lines, lines, Text.pieces_cons_of_notMem hl, hrest, hcontent]
  rfl

/-! ## The declarations of a text -/

/-- The declarations in lines, numbered from `number` on. -/
def declarationsFrom (number : Nat) : List (List Char) → List (Nat × Declaration)
  | [] => []
  | l :: ls => (declaration? l).toList.map (number, ·) ++ declarationsFrom (number + 1) ls

def declarations (text : List Char) : List (Nat × Declaration) := declarationsFrom 1 (lines text)

private theorem mem_declarationsFrom {text : List Char} {n k : Nat} {d : Declaration} :
    (n, d) ∈ declarationsFrom (k + 1) (lines text) ↔
      ∃ m line ended, n = m + k ∧ IsLine text m line ended ∧ IsDeclaration (content line ended) d := by
  have hfirst : ∀ (k : Nat) (l : List Char), (n, d) ∈ (declaration? l).toList.map (k + 1, ·) ↔
      n = 1 + k ∧ IsDeclaration l d := by
    intro k l
    rw [← declaration?_eq_some_iff, List.mem_map]
    simp only [Option.mem_toList, Prod.mk.injEq, exists_eq_right_right]
    rw [and_comm, Nat.add_comm k 1, eq_comm]
  -- from line to line: a declaration is made by the first one, or by one of those behind it
  induction text using Encoding.lines_induction generalizing k with
  | nil => simp [lines, Text.pieces, declarationsFrom, Encoding.not_isLine_nil]
  | last l hne hl =>
    rw [lines_of_notMem hne hl, declarationsFrom, declarationsFrom, List.append_nil, hfirst]
    simp only [Encoding.isLine_of_notMem hne hl]
    constructor
    · rintro ⟨hn, hd⟩
      exact ⟨1, l, false, hn, ⟨rfl, rfl, rfl⟩, hd⟩
    · rintro ⟨_, _, _, hn, ⟨rfl, rfl, rfl⟩, hd⟩
      exact ⟨hn, hd⟩
  | line l rest hl ih =>
    rw [lines_append_cons hl, declarationsFrom, List.mem_append, hfirst, or_congr_right ih]
    simp only [Encoding.isLine_append_cons hl]
    constructor
    · rintro (⟨hn, hd⟩ | ⟨m, line, ended, rfl, hline, hd⟩)
      · exact ⟨1, l, true, hn, .inl ⟨rfl, rfl, rfl⟩, hd⟩
      · exact ⟨m + 1, line, ended, by omega, .inr ⟨m, rfl, hline⟩, hd⟩
    · rintro ⟨_, line, ended, hn, ⟨rfl, rfl, rfl⟩ | ⟨m, rfl, hline⟩, hd⟩
      · exact .inl ⟨hn, hd⟩
      · exact .inr ⟨m, line, ended, by omega, hline, hd⟩

private theorem number_le_of_mem {n : Nat} {ls : List (List Char)} {e : Nat × Declaration}
    (h : e ∈ declarationsFrom n ls) :
    n ≤ e.1 := by
  induction ls generalizing n with
  | nil => cases h
  | cons l ls ih =>
    rw [declarationsFrom, List.mem_append, List.mem_map] at h
    rcases h with ⟨d, -, rfl⟩ | h
    · exact Nat.le_refl n
    · exact Nat.le_of_succ_le (ih h)

/-- `declarationsFrom` has one declaration for a line at most, and the lines in turn. -/
theorem pairwise_declarationsFrom (n : Nat) (ls : List (List Char)) :
    (declarationsFrom n ls).Pairwise fun e f => e.1 < f.1 := by
  induction ls generalizing n with
  | nil => exact .nil
  | cons l ls ih =>
    rw [declarationsFrom, List.pairwise_append]
    refine ⟨?_, ih (n + 1), ?_⟩
    · cases declaration? l with
      | none => exact .nil
      | some d => exact List.pairwise_singleton ..
    · intro e he f hf
      obtain ⟨d, -, rfl⟩ := List.mem_map.1 he
      exact number_le_of_mem hf

/-! ## Breaches -/

/-- `d` and `r` agree on one of prefix and namespace and not on the other. -/
def Breaks (d : Declaration) (r : Rule) : Prop := ¬(r.name = String.ofList d.name ↔ r.url = String.ofList d.url)

instance (d : Declaration) : DecidablePred (Breaks d) := fun _ => inferInstanceAs (Decidable ¬_)

/-- What is said of the declaration `d` in line `number`, which breaks `r`. -/
def complaint (number : Nat) (d : Declaration) (r : Rule) : String :=
  if r.name = String.ofList d.name then
    "line " ++ toString number ++ ": prefix " ++ String.ofList d.name ++ ": should be <" ++ r.url ++ ">, found <" ++
      String.ofList d.url ++ ">"
  else
    "line " ++ toString number ++ ": <" ++ String.ofList d.url ++ "> should use prefix " ++ r.name ++ ":, found " ++
      String.ofList d.name ++ ":"

/-- The problem that `d` in line `number` breaks `r`, as serious as `r` says or else as `s` does. -/
def breach (s : Settings) (number : Nat) (d : Declaration) (r : Rule) : Problem :=
  ⟨r.severity.getD s.severity, complaint number d r⟩

private theorem breach?_eq (number : Nat) (d : Declaration) (r : Rule) :
    breach? number d r = if Breaks d r then some (complaint number d r) else none := by
  unfold breach? complaint Breaks
  dsimp only
  by_cases hname : r.name = String.ofList d.name
  · by_cases hurl : r.url = String.ofList d.url
    · simp [hname, hurl]
    · simp [hname, hurl, String.append_assoc]
  · by_cases hurl : r.url = String.ofList d.url
    · simp [hname, hurl, String.append_assoc]
    · simp [hname, hurl]

/-- The problems of a declaration with its line number, for rule after rule of `s`. -/
def breaches (s : Settings) (e : Nat × Declaration) : List Problem :=
  (s.rules.filter (Breaks e.2)).map (breach s e.1 e.2)

private theorem lineProblems_eq (s : Settings) (number : Nat) (line : List Char) :
    lineProblems s number line = ((declaration? line).toList.map (number, ·)).flatMap (breaches s) := by
  unfold lineProblems
  split
  · rename_i h
    rw [h]
    rfl
  · rename_i d h
    have hone : ∀ r, (breach? number d r).map (⟨r.severity.getD s.severity, ·⟩) =
        if Breaks d r then some (breach s number d r) else none := by
      intro r
      rw [breach?_eq]
      split <;> rfl
    rw [h]
    show _ = (s.rules.filter (Breaks d)).map (breach s number d) ++ []
    rw [List.append_nil, ← List.filterMap_eq_map', List.filterMap_filter]
    simp only [hone, decide_eq_true_eq]

private theorem linesProblems_eq (s : Settings) (number : Nat) (ls : List (List Char)) :
    linesProblems s number ls = (declarationsFrom number ls).flatMap (breaches s) := by
  induction ls generalizing number with
  | nil => rfl
  | cons l ls ih => rw [linesProblems, declarationsFrom, List.flatMap_append, lineProblems_eq, ih]

theorem breaches_eq_nil_iff {s : Settings} {e : Nat × Declaration} : breaches s e = [] ↔
    ∀ r ∈ s.rules, (r.name = String.ofList e.2.name ↔ r.url = String.ofList e.2.url) := by
  rw [breaches, List.map_eq_nil_iff, List.filter_eq_nil_iff]
  simp only [decide_eq_true_eq]
  exact forall₂_congr fun r _ => Decidable.not_not

/-! ## What is reported -/

/-- The `expression` matches in a line exactly if there is a declaration in it. -/
theorem matches_expression_iff {line : List Char} :
    (∃ i j, i ≤ line.length ∧ Pattern.Regex.Matches line.toArray expression i j) ↔ ∃ d, IsDeclaration line d := by
  rw [Pattern.Regex.matches_iff]
  constructor
  · rintro ⟨l, p, r, gs, hline, h⟩
    obtain ⟨d, hd, -⟩ := captures_expression_iff.1 ⟨l, p, r, hline, h⟩
    exact ⟨d, hd⟩
  · rintro ⟨d, hd⟩
    obtain ⟨l, p, r, hline, h⟩ := captures_expression_iff.2 ⟨d, hd, rfl⟩
    exact ⟨l, p, r, _, hline, h⟩

private theorem mem_declarations {text : List Char} {n : Nat} {d : Declaration} : (n, d) ∈ declarations text ↔
    ∃ line ended, IsLine text n line ended ∧ IsDeclaration (content line ended) d := by
  rw [declarations, mem_declarationsFrom (k := 0)]
  simp only [Nat.add_zero, exists_and_left, exists_eq_left']

private theorem textProblems_eq (s : Settings) (text : List Char) :
    textProblems s text = (declarations text).flatMap (breaches s) :=
  linesProblems_eq s 1 (lines text)

theorem textProblems_eq_nil_iff (s : Settings) (text : List Char) : textProblems s text = [] ↔
    ∀ e ∈ declarations text, ∀ r ∈ s.rules, (r.name = String.ofList e.2.name ↔ r.url = String.ofList e.2.url) := by
  rw [textProblems_eq, List.flatMap_eq_nil_iff]
  simp only [breaches_eq_nil_iff]

/-- The `pattern` of declarations can be read, and in a `line` it matches and captures exactly the declaration that
the line makes, `IsDeclaration`. A text makes at most one declaration for each line, `ds` in the order of the lines.
`textProblems` has for one after the other, and rule after rule, one problem where they agree on one of prefix and
namespace and not on the other, `Breaks`, and no other problem. So nothing is reported if every declaration agrees
with every rule on both or on neither. -/
theorem textProblems_exact (s : Settings) (text : List Char) :
    (∃ e, Pattern.Grammar.read pattern = some e ∧ ∀ line : List Char,
      ((∃ i j, i ≤ line.length ∧ Pattern.Regex.Matches line.toArray e i j) ↔ ∃ d, IsDeclaration line d) ∧
      ∀ gs, (∃ l p r, line = l ++ p ++ r ∧ Pattern.Regex.Captures e l p r gs) ↔
        ∃ d, IsDeclaration line d ∧ gs = [d.name, d.url]) ∧
    ∃ ds : List (Nat × Declaration), ds.Pairwise (fun d e => d.1 < e.1) ∧
      (∀ n d, (n, d) ∈ ds ↔ ∃ line ended, IsLine text n line ended ∧ IsDeclaration (content line ended) d) ∧
      textProblems s text = (ds.flatMap fun e => (s.rules.filter (Breaks e.2)).map (breach s e.1 e.2)) ∧
      (textProblems s text = [] ↔ ∀ e ∈ ds, ∀ r ∈ s.rules,
        (r.name = String.ofList e.2.name ↔ r.url = String.ofList e.2.url)) := by
  refine ⟨⟨expression, read_pattern, fun line => ⟨matches_expression_iff, fun gs => captures_expression_iff⟩⟩, ?_⟩
  exact ⟨declarations text, pairwise_declarationsFrom 1 (lines text), fun n d => mem_declarations,
    textProblems_eq s text, textProblems_eq_nil_iff s text⟩

/-- Two rules for one prefix: a declaration can keep one and break the other. -/
example : textProblems ⟨.warning, [⟨"ex", "http://a/", none⟩, ⟨"ex", "http://b/", some .error⟩]⟩
    "# terms\r\n\tPreFix ex:<http://a/>".toList =
      [⟨.error, "line 2: prefix ex: should be <http://b/>, found <http://a/>"⟩] := by decide +kernel

end DatasetLint.Check.Prefixes
