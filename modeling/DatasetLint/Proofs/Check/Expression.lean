import DatasetLint.Proofs.Check.Declarations
import DatasetLint.Proofs.Pattern.Captures
import DatasetLint.Proofs.Pattern.Reading

/-!
# Declarations as a regular expression

What declares a prefix can be told by a pattern, too. Read as an expression, it matches in a line exactly the
declaration that the line makes, and its two groups capture the prefix and the namespace.
-/

namespace DatasetLint.Check.Prefixes

open Text Pattern Unicode Pattern.Regex

/-! ## The pattern -/

/-- A declaration as a regular expression: its two groups capture the prefix and the namespace. -/
def pattern : String := "^\\s*(?:@prefix|(?i:prefix))\\s+([A-Za-z0-9_.\\-]*):\\s*<([^>]*)>"

def blank : Regex := .set whiteSpace

def nameChars : CharSet := ⟨#[45, 47, 48, 58, 65, 91, 95, 96, 97, 123]⟩

def notClosing : CharSet := (CharSet.single '>').compl

def withAt : Regex := ("@prefix".toList.map .literal).foldl .seq .empty

def word : Regex := ("prefix".toList.map fun c => .set (inAnyCase c)).foldl .seq .empty

/-- What `pattern` is read as. -/
def expression : Regex :=
  [.look .textStart, .rep blank 0 none, .alt withAt word, .rep blank 1 none, .capture (.rep (.set nameChars) 0 none),
    .literal ':', .rep blank 0 none, .literal '<', .capture (.rep (.set notClosing) 0 none), .literal '>'].foldl
    .seq .empty

/-- What of the `pattern` is behind its word in any case. -/
def behindWord : List Char := "))\\s+([A-Za-z0-9_.\\-]*):\\s*<([^>]*)>".toList

/-- How far the pattern is read before that word, where `items` are read in its group. -/
def atWord (items : List Grammar.Item) (rest : List Char) : Grammar.State where
  rest := rest
  flags := Grammar.State.anyCase
  group := ⟨false, items, [], .default⟩
  outer := [⟨false, [], [⟨withAt, 1, false⟩], .default⟩,
    ⟨false, [⟨.rep blank 0 none, 1, false⟩, ⟨.look .textStart, 0, false⟩], [], .default⟩]
  names := []

theorem read_pattern : Grammar.read pattern = some expression := by
  have hbefore : Grammar.State.steps 13 ⟨pattern.toList, .default, ⟨false, [], [], .default⟩, [], []⟩ =
      some (atWord [] ("prefix".toList ++ behindWord)) := by decide +kernel
  have hletters : ("prefix".toList.all fun c => c ∈ pairedLetters) = true := rfl
  have hword := Grammar.State.steps_letters (s := atWord [] ("prefix".toList ++ behindWord)) rfl rfl
    fun c hc => of_decide_eq_true (List.all_eq_true.1 hletters c hc)
  have hbehind : Grammar.State.run 43
      (atWord (("prefix".toList.map fun c => ⟨.set (inAnyCase c), 0, false⟩).reverse ++ []) behindWord) =
      some ⟨expression, 5, false⟩ := by decide +kernel
  have hlength : pattern.toList.length + 1 = 13 + ("prefix".toList.length + 43) := by decide
  have hrun : Grammar.State.run (pattern.toList.length + 1)
      ⟨pattern.toList, .default, ⟨false, [], [], .default⟩, [], []⟩ = some ⟨expression, 5, false⟩ := by
    rw [hlength, Grammar.State.run_add hbefore, Grammar.State.run_add hword]
    exact hbehind
  unfold Grammar.read
  dsimp only
  rw [hrun]
  rfl

private theorem contains_whiteSpace (c : Char) : whiteSpace.contains c = true ↔ isBlank c = true := by
  have hruns : whiteSpace.runs = [(9, 13), (32, 32), (133, 133), (160, 160), (5760, 5760), (8192, 8202), (8232, 8233),
      (8239, 8239), (8287, 8287), (12288, 12288)] := by decide +kernel
  rw [CharSet.contains_iff (by decide +kernel), hruns, isBlank_iff]
  simp only [List.mem_cons, exists_eq_or_imp, List.not_mem_nil, or_false, exists_eq_left]
  omega

private theorem contains_nameChars (c : Char) : nameChars.contains c = true ↔ isNameChar c = true := by
  have hruns : nameChars.runs = [(45, 46), (48, 57), (65, 90), (95, 95), (97, 122)] := rfl
  rw [CharSet.contains_iff (by decide), hruns, isNameChar_iff]
  simp only [List.mem_cons, exists_eq_or_imp, List.not_mem_nil, or_false, exists_eq_left]
  omega

private theorem contains_notClosing (c : Char) : notClosing.contains c = true ↔ c ≠ '>' := by
  have hruns : notClosing.runs = [(0, 61), (63, 0x10FFFF)] := by decide
  have hc : c.toNat ≤ 0x10FFFF := by
    rcases c.valid with hlt | ⟨-, hlt⟩ <;> (change c.val.toNat ≤ _; omega)
  have hchar : c = '>' ↔ c.toNat = 62 := Char.toNat_inj.symm
  rw [CharSet.contains_iff (by decide), hruns, ne_eq, hchar]
  simp only [List.mem_cons, exists_eq_or_imp, List.not_mem_nil, or_false, exists_eq_left]
  omega

private theorem contains_inAnyCase {c : Char} (hc : 'a' ≤ c ∧ c ≤ 'z') (d : Char) :
    (inAnyCase c).contains d = true ↔ d.toLower = c := by
  have hlow : 97 ≤ c.toNat := hc.1
  have hruns : (inAnyCase c).runs = [(c.toNat - 32, c.toNat - 31 - 1), (c.toNat, c.toNat + 1 - 1)] := rfl
  have hsorted : (inAnyCase c).bounds.toList.Pairwise (· < ·) := by
    simp [inAnyCase]
    omega
  rw [CharSet.contains_iff hsorted, hruns, toLower_eq_iff hc, ← Char.toNat_inj]
  simp only [List.mem_cons, exists_eq_or_imp, List.not_mem_nil, or_false, exists_eq_left]
  omega

private theorem captures_withAt {l p r : List Char} {gs : List (List Char)} :
    Captures withAt l p r gs ↔ gs = [] ∧ p = "@prefix".toList := by
  rw [withAt, captures_sequence_iff, capturesAll_literals_iff]

private theorem captures_word {l p r : List Char} {gs : List (List Char)} :
    Captures word l p r gs ↔ gs = [] ∧ p.map Char.toLower = "prefix".toList := by
  have hsmall : ("prefix".toList.all fun c => 'a' ≤ c ∧ c ≤ 'z') = true := rfl
  have hsame : ∀ {w p : List Char}, List.Forall₂ (fun c d => d.toLower = c) w p ↔ p.map Char.toLower = w := fun {w p} => by
    rw [← List.forall₂_eq_eq_eq, List.forall₂_map_left_iff]
    exact ⟨List.Forall₂.flip, List.Forall₂.flip⟩
  rw [word, captures_sequence_iff,
    capturesAll_map_iff fun c hc => (isOne_set _).mono (contains_inAnyCase (of_decide_eq_true (List.all_eq_true.1 hsmall c hc))),
    hsame]

private theorem captures_keyword {l p r : List Char} {gs : List (List Char)} :
    Captures (.alt withAt word) l p r gs ↔ gs = [] ∧ IsKeyword p := by
  rw [captures_alt_iff, captures_withAt, captures_word, ← and_or_left, IsKeyword]

private theorem captures_blanks {l p r : List Char} {gs : List (List Char)} :
    Captures (.rep blank 0 none) l p r gs ↔ gs = [] ∧ ∀ c ∈ p, isBlank c = true :=
  captures_rep_iff ((isOne_set _).mono contains_whiteSpace)

private theorem captures_gap {l p r : List Char} {gs : List (List Char)} :
    Captures (.rep blank 1 none) l p r gs ↔ gs = [] ∧ p ≠ [] ∧ ∀ c ∈ p, isBlank c = true :=
  captures_repOne_iff ((isOne_set _).mono contains_whiteSpace)

private theorem captures_name {l p r : List Char} {gs : List (List Char)} :
    Captures (.rep (.set nameChars) 0 none) l p r gs ↔ gs = [] ∧ ∀ c ∈ p, isNameChar c = true :=
  captures_rep_iff ((isOne_set _).mono contains_nameChars)

private theorem captures_url {l p r : List Char} {gs : List (List Char)} :
    Captures (.rep (.set notClosing) 0 none) l p r gs ↔ gs = [] ∧ ∀ c ∈ p, c ≠ '>' :=
  captures_rep_iff ((isOne_set _).mono contains_notClosing)

/-- What the `expression` matches in a text cut as `l ++ p ++ r` is a declaration, which begins the text. -/
private theorem isDeclaration_of_captures {l p r : List Char} {gs : List (List Char)}
    (h : Captures expression l p r gs) : ∃ d, IsDeclaration (l ++ p ++ r) d ∧ gs = [d.name, d.url] := by
  unfold expression at h
  replace h := captures_sequence_iff.1 h
  obtain ⟨start, p, _, gs, rfl, rfl, hstart, h⟩ := capturesAll_cons_iff.1 h
  obtain ⟨indent, p, _, gs, rfl, rfl, hindent, h⟩ := capturesAll_cons_iff.1 h
  obtain ⟨word, p, _, gs, rfl, rfl, hword, h⟩ := capturesAll_cons_iff.1 h
  obtain ⟨gap, p, _, gs, rfl, rfl, hg, h⟩ := capturesAll_cons_iff.1 h
  obtain ⟨name, p, _, gs, rfl, rfl, hn, h⟩ := capturesAll_cons_iff.1 h
  obtain ⟨colon, p, _, gs, rfl, rfl, hcolon, h⟩ := capturesAll_cons_iff.1 h
  obtain ⟨space, p, _, gs, rfl, rfl, hspace, h⟩ := capturesAll_cons_iff.1 h
  obtain ⟨opening, p, _, gs, rfl, rfl, hopening, h⟩ := capturesAll_cons_iff.1 h
  obtain ⟨url, p, _, gs, rfl, rfl, hu, h⟩ := capturesAll_cons_iff.1 h
  obtain ⟨closing, p, _, gs, rfl, rfl, hclosing, ⟨⟩⟩ := capturesAll_cons_iff.1 h
  -- only what is in the two groups is captured
  obtain ⟨rfl, rfl, hleft⟩ := captures_look_iff.1 hstart
  obtain ⟨rfl, hindent'⟩ := captures_blanks.1 hindent
  obtain ⟨rfl, hword'⟩ := captures_keyword.1 hword
  obtain ⟨rfl, hne, hg'⟩ := captures_gap.1 hg
  obtain ⟨_, rfl, hn'⟩ := captures_capture_iff.1 hn
  obtain ⟨rfl, hname'⟩ := captures_name.1 hn'
  obtain ⟨rfl, _, rfl, rfl⟩ := (isOne_literal ':' _ _ _ _).1 hcolon
  obtain ⟨rfl, hspace'⟩ := captures_blanks.1 hspace
  obtain ⟨rfl, _, rfl, rfl⟩ := (isOne_literal '<' _ _ _ _).1 hopening
  obtain ⟨_, rfl, hu'⟩ := captures_capture_iff.1 hu
  obtain ⟨rfl, hurl'⟩ := captures_url.1 hu'
  obtain ⟨rfl, _, rfl, rfl⟩ := (isOne_literal '>' _ _ _ _).1 hclosing
  obtain rfl : l = [] := List.getLast?_eq_none_iff.1 (Option.isNone_iff_eq_none.1 hleft)
  refine ⟨⟨name, url⟩, ?_, rfl⟩
  simpa using @IsDeclaration.intro indent word gap name space url r hindent' hword' hg' hne hname' hspace' fun hmem => hurl' _ hmem rfl

/-- A declaration is matched from the start of the `line` on, up to the bracket that closes it. -/
private theorem captures_of_isDeclaration {line : List Char} {d : Declaration} (h : IsDeclaration line d) :
    ∃ p r, line = [] ++ p ++ r ∧ Captures expression [] p r [d.name, d.url] := by
  obtain @⟨indent, word, gap, name, space, url, rest, hindent, hword, hg, hne, hn, hspace, hu⟩ := h
  unfold expression
  refine ⟨[] ++ (indent ++ (word ++ (gap ++ (name ++ ([':'] ++ (space ++ (['<'] ++ (url ++ (['>'] ++ []))))))))),
    rest, by simp, captures_sequence_iff.2 ?_⟩
  show CapturesAll _ _ _ _ ([] ++ ([] ++ ([] ++ ([] ++ ([name] ++ ([] ++ ([] ++ ([] ++ ([url] ++ ([] ++ []))))))))))
  refine .cons (captures_look_iff.2 ⟨rfl, rfl, rfl⟩) ?_
  refine .cons (captures_blanks.2 ⟨rfl, hindent⟩) ?_
  refine .cons (captures_keyword.2 ⟨rfl, hword⟩) ?_
  refine .cons (captures_gap.2 ⟨rfl, hne, hg⟩) ?_
  refine .cons (.capture (captures_name.2 ⟨rfl, hn⟩)) ?_
  refine .cons .literal ?_
  refine .cons (captures_blanks.2 ⟨rfl, hspace⟩) ?_
  refine .cons .literal ?_
  refine .cons (.capture (captures_url.2 ⟨rfl, fun c hc heq => hu (heq ▸ hc)⟩)) ?_
  exact .cons .literal .nil

/-- The `expression` matches in a line exactly what the line declares, and captures its `name` and `url`. -/
theorem captures_expression_iff {line : List Char} {gs : List (List Char)} :
    (∃ l p r, line = l ++ p ++ r ∧ Captures expression l p r gs) ↔ ∃ d, IsDeclaration line d ∧ gs = [d.name, d.url] := by
  constructor
  · rintro ⟨l, p, r, rfl, h⟩
    exact isDeclaration_of_captures h
  · rintro ⟨d, h, rfl⟩
    obtain ⟨p, r, hline, hcaptures⟩ := captures_of_isDeclaration h
    exact ⟨[], p, r, hline, hcaptures⟩

end DatasetLint.Check.Prefixes
