import DatasetLint.Proofs.Decimal.Integer
import DatasetLint.Proofs.Text.Span
import DatasetLint.Report.Json.Reader

/-!
# JSON reads back

A value is spelled by its tokens, in any layout: on one line, or with an entry a line. Reading cuts the text into
just these tokens, whatever characters its texts have, and takes the value from them.
-/

namespace DatasetLint.Report.Json

/-- Induction over values, with one hypothesis for all items or entries. -/
theorem induction {motive : Json → Prop} (number : ∀ n, motive (.number n)) (text : ∀ s, motive (.text s))
    (array : ∀ xs, (∀ x ∈ xs, motive x) → motive (.array xs))
    (object : ∀ es, (∀ e ∈ es, motive e.2) → motive (.object es)) (x : Json) : motive x :=
  @Json.rec motive (fun xs => ∀ x ∈ xs, motive x) (fun es => ∀ e ∈ es, motive e.2) (fun e => motive e.2)
    number text array object (List.forall_mem_nil _) (fun _ _ hx hxs => List.forall_mem_cons.2 ⟨hx, hxs⟩)
    (List.forall_mem_nil _) (fun _ _ he hes => List.forall_mem_cons.2 ⟨he, hes⟩) (fun _ _ hx => hx) x

/-! ## The tokens of a value -/

mutual

def tokens : Json → List Token
  | number n => [.number n]
  | text s => [.text s]
  | array xs => .openArray :: itemTokens true xs ++ [.closeArray]
  | object es => .openObject :: entryTokens true es ++ [.closeObject]

def itemTokens (first : Bool) : List Json → List Token
  | [] => []
  | x :: xs => (if first then [] else [.comma]) ++ tokens x ++ itemTokens false xs

def entryTokens (first : Bool) : List (String × Json) → List Token
  | [] => []
  | (k, x) :: es => (if first then [] else [.comma]) ++ .text k :: .colon :: tokens x ++ entryTokens false es

end

/-! ## Lists with commas -/

/-- Parts with a `comma` in front of each but the `first`. -/
def joined {α : Type} (comma : α) (first : Bool) : List (List α) → List α
  | [] => []
  | part :: parts => (if first then [] else [comma]) ++ part ++ joined comma false parts

private theorem itemTokens_eq (first : Bool) (xs : List Json) :
    itemTokens first xs = joined .comma first (xs.map tokens) := by
  induction xs generalizing first with
  | nil => rfl
  | cons x xs ih => rw [itemTokens, ih, List.map_cons, joined]

private theorem entryTokens_eq (first : Bool) (es : List (String × Json)) :
    entryTokens first es = joined .comma first (es.map fun e => .text e.1 :: .colon :: tokens e.2) := by
  induction es generalizing first with
  | nil => rfl
  | cons e es ih => rw [entryTokens, ih, List.map_cons, joined, List.append_assoc]

private theorem compactItems_eq (first : Bool) (xs : List Json) :
    compactItems first xs = joined ',' first (xs.map compact) := by
  induction xs generalizing first with
  | nil => rfl
  | cons x xs ih => rw [compactItems, ih, List.map_cons, joined]

private theorem compactEntries_eq (first : Bool) (es : List (String × Json)) :
    compactEntries first es = joined ',' first (es.map fun e => quote e.1 ++ ':' :: compact e.2) := by
  induction es generalizing first with
  | nil => rfl
  | cons e es ih =>
    rw [compactEntries, ih, List.map_cons, joined]
    simp only [List.append_assoc, List.cons_append]

private theorem prettyItems_eq (depth : Nat) (first : Bool) (xs : List Json) :
    prettyItems depth first xs = joined ',' first (xs.map fun x => newLine depth ++ pretty depth x) := by
  induction xs generalizing first with
  | nil =>
    rw [prettyItems]
    rfl
  | cons x xs ih =>
    rw [prettyItems, ih, List.map_cons, joined]
    simp only [List.append_assoc]

private theorem prettyEntries_eq (depth : Nat) (first : Bool) (es : List (String × Json)) :
    prettyEntries depth first es =
      joined ',' first (es.map fun e => newLine depth ++ (quote e.1 ++ ':' :: ' ' :: pretty depth e.2)) := by
  induction es generalizing first with
  | nil =>
    rw [prettyEntries]
    rfl
  | cons e es ih =>
    rw [prettyEntries, ih, List.map_cons, joined]
    simp only [List.append_assoc, List.cons_append]

/-! ## From tokens to values -/

private theorem Token.behindComma?_append (first : Bool) (ts : List Token) :
    behindComma? first ((if first then [] else [comma]) ++ ts) = some ts := by
  cases first <;> rfl

private theorem Token.head?_comma_append {first : Bool} {t : Token} (ht : t ≠ comma) {ts : List Token}
    (h : ts.head? ≠ some t) : ((if first then [] else [comma]) ++ ts).head? ≠ some t := by
  cases first with
  | true => exact h
  | false => exact fun heq => ht (Option.some.inj heq).symm

private theorem head?_tokens (x : Json) (ts : List Token) : (x.tokens ++ ts).head? ≠ some .closeArray := by
  cases x <;> exact nofun

/-- `value?` takes `x` from its tokens, whatever follows them. -/
def TakesBack (x : Json) : Prop :=
  ∀ steps ts, 2 * x.tokens.length ≤ steps → value? steps (x.tokens ++ ts) = some (x, ts)

private theorem items?_itemTokens {xs : List Json} (hxs : ∀ x ∈ xs, TakesBack x) (first : Bool) (steps : Nat)
    (ts : List Token) (hsteps : 2 * (itemTokens first xs).length + 1 ≤ steps) :
    items? steps first (itemTokens first xs ++ .closeArray :: ts) = some (xs, ts) := by
  obtain ⟨steps, rfl⟩ : ∃ k, steps = k + 1 := ⟨steps - 1, by omega⟩
  -- the steps that are left stay above what the items behind can take
  induction xs generalizing first steps with
  | nil =>
    rw [itemTokens, items?]
    rfl
  | cons x xs ih =>
    obtain ⟨hx, hxs⟩ := List.forall_mem_cons.1 hxs
    have hpos : 0 < x.tokens.length := by cases x <;> exact Nat.succ_pos _
    simp only [itemTokens, List.length_append] at hsteps
    obtain ⟨steps, rfl⟩ : ∃ k, steps = k + 1 := ⟨steps - 1, by omega⟩
    simp only [itemTokens, List.append_assoc]
    rw [items?, if_neg (Token.head?_comma_append (t := .closeArray) nofun (head?_tokens x _)),
      Token.behindComma?_append, Option.bind_some, hx _ _ (by omega), Option.bind_some]
    dsimp only
    rw [ih hxs false steps (by omega)]
    rfl

private theorem entries?_entryTokens {es : List (String × Json)} (hes : ∀ e ∈ es, TakesBack e.2) (first : Bool)
    (steps : Nat)
    (ts : List Token) (hsteps : 2 * (entryTokens first es).length + 1 ≤ steps) :
    entries? steps first (entryTokens first es ++ .closeObject :: ts) = some (es, ts) := by
  obtain ⟨steps, rfl⟩ : ∃ k, steps = k + 1 := ⟨steps - 1, by omega⟩
  induction es generalizing first steps with
  | nil =>
    rw [entryTokens, entries?]
    rfl
  | cons e es ih =>
    obtain ⟨k, x⟩ := e
    have hx : TakesBack x := hes (k, x) (List.mem_cons_self ..)
    have hes : ∀ e ∈ es, TakesBack e.2 := fun e he => hes e (List.mem_cons_of_mem _ he)
    have hkey : ∀ us : List Token, (.text k :: us).head? ≠ some .closeObject := fun _ => nofun
    simp only [entryTokens, List.length_append, List.length_cons] at hsteps
    obtain ⟨steps, rfl⟩ : ∃ k, steps = k + 1 := ⟨steps - 1, by omega⟩
    simp only [entryTokens, List.append_assoc, List.cons_append]
    rw [entries?, if_neg (Token.head?_comma_append (t := .closeObject) nofun (hkey _)), Token.behindComma?_append]
    dsimp only
    rw [hx _ _ (by omega), Option.bind_some]
    dsimp only
    rw [ih hes false steps (by omega)]
    rfl

private theorem takesBack (x : Json) : TakesBack x := by
  induction x using induction with
  | number n =>
    intro steps ts hsteps
    obtain ⟨steps, rfl⟩ : ∃ k, steps = k + 1 := ⟨steps - 1, by simp only [tokens, List.length_cons] at hsteps; omega⟩
    rfl
  | text s =>
    intro steps ts hsteps
    obtain ⟨steps, rfl⟩ : ∃ k, steps = k + 1 := ⟨steps - 1, by simp only [tokens, List.length_cons] at hsteps; omega⟩
    rfl
  | array xs ih =>
    intro steps ts hsteps
    simp only [tokens, List.length_append, List.length_cons] at hsteps
    obtain ⟨steps, rfl⟩ : ∃ k, steps = k + 1 := ⟨steps - 1, by omega⟩
    simp only [tokens, List.append_assoc, List.cons_append, List.nil_append]
    rw [value?, items?_itemTokens ih true steps ts (by omega)]
    rfl
  | object es ih =>
    intro steps ts hsteps
    simp only [tokens, List.length_append, List.length_cons] at hsteps
    obtain ⟨steps, rfl⟩ : ∃ k, steps = k + 1 := ⟨steps - 1, by omega⟩
    simp only [tokens, List.append_assoc, List.cons_append, List.nil_append]
    rw [value?, entries?_entryTokens ih true steps ts (by omega)]
    rfl

private theorem ofTokens?_tokens (x : Json) : ofTokens? x.tokens = some x := by
  have h := takesBack x _ [] (Nat.le_refl _)
  rw [List.append_nil] at h
  rw [ofTokens?, h]

/-! ## From texts to tokens -/

namespace Token

private theorem tokens?_blank {c : Char} (h : isBlank c = true) (cs : List Char) : tokens? (c :: cs) = tokens? cs := by
  rw [tokens?, if_pos h]

private theorem tokens?_next {c : Char} {cs rest : List Char} {t : Token} (hblank : isBlank c = false)
    (h : next? (c :: cs) = some (t, rest)) : tokens? (c :: cs) = (tokens? rest).map (t :: ·) := by
  rw [tokens?, if_neg (Bool.eq_false_iff.1 hblank)]
  split
  · rename_i hnone
    cases h.symm.trans hnone
  · rename_i hsome
    cases h.symm.trans hsome
    rfl

/-- The text `cs` does not go on with a digit. -/
def NoDigit (cs : List Char) : Prop := ∀ c ∈ cs.head?, c.isDigit = false

private theorem NoDigit.nil : NoDigit [] := by
  intro c hc
  cases hc

private theorem NoDigit.cons {c : Char} (h : c.isDigit = false) (cs : List Char) : NoDigit (c :: cs) := by
  intro d hd
  cases hd
  exact h

private theorem NoDigit.append {cs ds : List Char} (hcs : NoDigit cs) (hds : NoDigit ds) : NoDigit (cs ++ ds) := by
  cases cs with
  | nil => exact hds
  | cons c cs => exact hcs

/-- The text `cs` is cut into the tokens `ts`, as long as no digit follows it. -/
def Spells (cs : List Char) (ts : List Token) : Prop :=
  ∀ rest, NoDigit rest → tokens? (cs ++ rest) = (tokens? rest).map (ts ++ ·)

namespace Spells

private theorem nil : Spells [] [] := by
  intro rest _
  exact Option.map_id'.symm

variable {cs ds : List Char} {ts us : List Token}

private theorem append (h : Spells cs ts) (hds : Spells ds us) (hdigit : NoDigit ds) : Spells (cs ++ ds)
    (ts ++ us) := by
  intro rest hrest
  rw [List.append_assoc, h _ (hdigit.append hrest), hds _ hrest, Option.map_map]
  congr 1
  funext vs
  exact (List.append_assoc ts us vs).symm

private theorem blank {c : Char} (hc : isBlank c = true) (h : Spells cs ts) : Spells (c :: cs) ts := by
  intro rest hrest
  rw [List.cons_append, tokens?_blank hc, h rest hrest]

private theorem mark {c : Char} {t : Token} (hc : isBlank c = false) (ht : ofMark? c = some t) (h : Spells cs ts) :
    Spells (c :: cs) (t :: ts) := by
  intro rest hrest
  have hnext : next? (c :: (cs ++ rest)) = some (t, cs ++ rest) := by
    simp only [next?, ht]
  rw [List.cons_append, tokens?_next hc hnext, h rest hrest, Option.map_map]
  rfl

end Spells

/-! ### Numbers -/

private theorem number?_natDigits (n : Nat) : number? (Decimal.natDigits n) = some (.number n) := by
  have hnot : ¬(Decimal.natDigits n = [] ∨
      (Decimal.natDigits n).head? = some '0' ∧ Decimal.natDigits n ≠ ['0']) := by
    rintro (hnil | ⟨hzero, hmore⟩)
    · exact Decimal.natDigits_ne_nil n hnil
    · by_cases hn : n = 0
      · subst hn
        exact hmore rfl
      · exact Decimal.head?_natDigits_ne_zero hn hzero
  rw [number?, if_neg hnot, Decimal.digitsValue_natDigits]

private theorem of_isDigit {c : Char} (h : c.isDigit = true) : isBlank c = false ∧ ofMark? c = none ∧ c ≠ '"' := by
  have hne : ∀ d : Char, d.isDigit = false → c ≠ d := by
    rintro d hd rfl
    rw [h] at hd
    cases hd
  refine ⟨?_, ?_, hne _ rfl⟩
  · rw [isBlank, beq_eq_false_iff_ne.2 (hne ' ' rfl), beq_eq_false_iff_ne.2 (hne '\t' rfl),
      beq_eq_false_iff_ne.2 (hne '\n' rfl), beq_eq_false_iff_ne.2 (hne '\r' rfl)]
    rfl
  · rw [ofMark?, if_neg (hne _ rfl), if_neg (hne _ rfl), if_neg (hne _ rfl), if_neg (hne _ rfl), if_neg (hne _ rfl),
      if_neg (hne _ rfl)]

private theorem spells_natDigits (n : Nat) : Spells (Decimal.natDigits n) [.number n] := by
  intro rest hrest
  obtain ⟨c, cs, hcs⟩ := List.exists_cons_of_ne_nil (Decimal.natDigits_ne_nil n)
  have hdigits : ∀ d ∈ c :: cs, d.isDigit = true := fun d hd => Decimal.isDigit_of_mem_natDigits (hcs ▸ hd)
  obtain ⟨hblank, hmark, hquote⟩ := of_isDigit (hdigits c (List.mem_cons_self ..))
  obtain ⟨htake, hdrop⟩ := Text.span_append hdigits hrest
  have hnext : next? (c :: (cs ++ rest)) = some (.number n, rest) := by
    rw [List.cons_append] at htake hdrop
    simp only [next?, hmark, if_neg hquote, htake, hdrop, ← hcs, number?_natDigits, Option.map_some]
  rw [hcs, List.cons_append, tokens?_next hblank hnext]
  rfl

/-! ### Texts -/

/-- A character `c` is escaped by a letter, by its number, or not at all. -/
theorem escapeChar_cases (c : Char) :
    (∃ e, e ≠ 'u' ∧ 0x20 ≤ e.toNat ∧ unescape? e = some c ∧ escapeChar c = ['\\', e]) ∨
    (c.toNat < 0x20 ∧
      escapeChar c = ['\\', 'u', '0', '0', hexDigit (c.toNat / 16), hexDigit (c.toNat % 16)]) ∨
    (c ≠ '"' ∧ c ≠ '\\' ∧ 0x20 ≤ c.toNat ∧ escapeChar c = [c]) := by
  by_cases hletter : c ∈ ['"', '\\', '\n', '\r', '\t', '\x08', '\x0c']
  · simp only [List.mem_cons, List.not_mem_nil, or_false] at hletter
    rcases hletter with rfl | rfl | rfl | rfl | rfl | rfl | rfl
    · exact .inl ⟨'"', by decide, by decide, rfl, rfl⟩
    · exact .inl ⟨'\\', by decide, by decide, rfl, rfl⟩
    · exact .inl ⟨'n', by decide, by decide, rfl, rfl⟩
    · exact .inl ⟨'r', by decide, by decide, rfl, rfl⟩
    · exact .inl ⟨'t', by decide, by decide, rfl, rfl⟩
    · exact .inl ⟨'b', by decide, by decide, rfl, rfl⟩
    · exact .inl ⟨'f', by decide, by decide, rfl, rfl⟩
  · simp only [List.mem_cons, List.not_mem_nil, or_false, not_or] at hletter
    obtain ⟨hquote, hescape, hother⟩ := hletter
    by_cases hcontrol : c.toNat < 0x20
    · exact .inr (.inl ⟨hcontrol, by simp [escapeChar, hquote, hescape, hother, hcontrol]⟩)
    · exact .inr (.inr ⟨hquote, hescape, Nat.not_lt.1 hcontrol,
        by simp [escapeChar, hquote, hescape, hother, hcontrol]⟩)

/-- A control character is read from the digits of its number `n`. -/
theorem unit?_control : ∀ n < 0x20, unit? '0' '0' (hexDigit (n / 16)) (hexDigit (n % 16)) = some n := by
  decide

/-- A character `c` is read from its escape. -/
theorem exists_piece (c : Char) : ∃ p,
    (∀ cs, pieces? (escapeChar c ++ cs) = (pieces? cs).map fun (ps, rest) => (p :: ps, rest)) ∧
      ∀ ps, chars? (p :: ps) = (chars? ps).map (c :: ·) := by
  rcases escapeChar_cases c with ⟨e, he, -, hc, hescape⟩ | ⟨hcontrol, hescape⟩ | ⟨hquote, hslash, hcontrol, hescape⟩
  · refine ⟨.char c, fun cs => ?_, fun ps => by rw [chars?.eq_def]⟩
    rw [hescape, List.cons_append, List.singleton_append, pieces?.eq_def]
    simp only [if_neg (by decide : '\\' ≠ '"'), if_true, if_neg he, hc, Option.bind_some]
  · refine ⟨.unit c.toNat, fun cs => ?_, fun ps => ?_⟩
    · rw [hescape, pieces?.eq_def]
      simp only [List.cons_append, List.nil_append, if_neg (by decide : '\\' ≠ '"'), if_true, unit?_control _ hcontrol,
        Option.bind_some]
    · rw [chars?.eq_def]
      simp only [if_pos (.inl (by omega) : c.toNat < 0xD800 ∨ 0xDFFF < c.toNat), Char.ofNat_toNat]
  · refine ⟨.char c, fun cs => ?_, fun ps => by rw [chars?.eq_def]⟩
    rw [hescape, List.singleton_append, pieces?.eq_def]
    simp only [if_neg hquote, if_neg hslash, if_neg (Nat.not_lt.2 hcontrol)]

/-- A text `s` is read from its quoted form. -/
theorem spells_quote {cs : List Char} {ts : List Token} (h : Spells cs ts) (s : String) :
    Spells (quote s ++ cs) (.text s :: ts) := by
  -- every character is written as one piece, which reads as the character
  have hbody : ∀ ds rest : List Char, ∃ ps,
      pieces? (ds.flatMap escapeChar ++ '"' :: rest) = some (ps, rest) ∧ chars? ps = some ds := by
    intro ds rest
    induction ds with
    | nil =>
      refine ⟨[], ?_, by rw [chars?.eq_def]⟩
      rw [List.flatMap_nil, List.nil_append, pieces?.eq_def]
      rfl
    | cons d ds ih =>
      obtain ⟨ps, hps, hds⟩ := ih
      obtain ⟨p, hp, hd⟩ := exists_piece d
      refine ⟨p :: ps, ?_, ?_⟩
      · rw [List.flatMap_cons, List.append_assoc, hp, hps]
        rfl
      · rw [hd, hds]
        rfl
  intro rest hrest
  obtain ⟨ps, hps, hds⟩ := hbody s.toList (cs ++ rest)
  have hnext : next? ('"' :: (s.toList.flatMap escapeChar ++ '"' :: (cs ++ rest))) = some (.text s, cs ++ rest) := by
    show text? _ = _
    rw [text?, hps, Option.bind_some]
    dsimp only
    rw [hds, Option.map_some, String.ofList_toList]
  have hquote : quote s ++ cs ++ rest = '"' :: (s.toList.flatMap escapeChar ++ '"' :: (cs ++ rest)) := by
    simp only [quote, List.append_assoc, List.cons_append, List.nil_append]
  rw [hquote, tokens?_next rfl hnext, h rest hrest, Option.map_map]
  rfl

end Token

/-! ### Layouts of values -/

open Token

/-- What `Spells` the tokens of `x` is read as `x`. -/
theorem read?_of_spells {x : Json} {cs : List Char} (h : Spells cs x.tokens) : read? cs = some x := by
  have htokens := h [] .nil
  rw [List.append_nil, tokens?, Option.map_some, List.append_nil] at htokens
  rw [read?, htokens, Option.bind_some, ofTokens?_tokens]

private theorem spells_comma (first : Bool) {cs : List Char} {ts : List Token} (h : Spells cs ts) :
    Spells ((if first then [] else [',']) ++ cs) ((if first then [] else [.comma]) ++ ts) := by
  cases first with
  | true => exact h
  | false => exact h.mark rfl rfl

/-- Parts with commas spell the tokens of the parts with commas. -/
theorem spells_joined {α : Type} {write : α → List Char} {spelled : α → List Token} {as : List α}
    (h : ∀ a ∈ as, Spells (write a) (spelled a)) (first : Bool) :
    Spells (joined ',' first (as.map write)) (joined .comma first (as.map spelled)) := by
  induction as generalizing first with
  | nil => exact .nil
  | cons a as ih =>
    obtain ⟨ha, has⟩ := List.forall_mem_cons.1 h
    -- a comma is no digit, so that a number ends there
    have hdigit : NoDigit (joined ',' false (as.map write)) := by
      cases as with
      | nil => exact .nil
      | cons b bs => exact .cons rfl _
    rw [List.map_cons, List.map_cons, joined, joined, List.append_assoc, List.append_assoc]
    exact spells_comma first (ha.append (ih has false) hdigit)

private theorem spells_text (s : String) : Spells (quote s) [.text s] := by
  have h := spells_quote .nil s
  rwa [List.append_nil] at h

/-! ### On one line -/

private theorem spells_compact (x : Json) : Spells x.compact x.tokens := by
  induction x using induction with
  | number n => exact spells_natDigits n
  | text s => exact spells_text s
  | array xs ih =>
    rw [compact, tokens, compactItems_eq, itemTokens_eq]
    exact ((spells_joined ih true).append (.mark rfl rfl .nil) (.cons rfl [])).mark rfl rfl
  | object es ih =>
    have hentries := spells_joined (fun e he => spells_quote ((ih e he).mark (c := ':') rfl rfl) e.1) true
    rw [compact, tokens, compactEntries_eq, entryTokens_eq]
    exact (hentries.append (.mark rfl rfl .nil) (.cons rfl [])).mark rfl rfl

/-- A value `x` on one line is read as `x`. -/
theorem read?_compact (x : Json) : read? x.compact = some x := read?_of_spells (spells_compact x)

/-! ### With an entry a line -/

private theorem spells_newLine (depth : Nat) {cs : List Char} {ts : List Token} (h : Spells cs ts) :
    Spells (newLine depth ++ cs) ts := by
  rw [newLine, List.cons_append]
  refine .blank rfl ?_
  induction 2 * depth with
  | zero => exact h
  | succ n ih =>
    rw [List.replicate_succ, List.cons_append]
    exact ih.blank rfl

private theorem noDigit_newLine (depth : Nat) (cs : List Char) : NoDigit (newLine depth ++ cs) := .cons rfl _

private theorem spells_pretty (x : Json) (depth : Nat) : Spells (x.pretty depth) x.tokens := by
  induction x using induction generalizing depth with
  | number n =>
    rw [pretty, tokens]
    exact spells_natDigits n
  | text s =>
    rw [pretty, tokens]
    exact spells_text s
  | array xs ih =>
    have hclose : Spells (newLine depth ++ [']']) [.closeArray] := spells_newLine depth (.mark rfl rfl .nil)
    have hitems := spells_joined (fun x hx => spells_newLine (depth + 1) (ih x hx (depth + 1))) true
    cases xs with
    | nil =>
      rw [pretty, tokens, itemTokens]
      exact .mark rfl rfl (.mark rfl rfl .nil)
    | cons x xs =>
      rw [pretty, tokens, List.append_assoc, prettyItems_eq, itemTokens_eq]
      exact (hitems.append hclose (noDigit_newLine _ _)).mark rfl rfl
  | object es ih =>
    have hclose : Spells (newLine depth ++ ['\x7d']) [.closeObject] := spells_newLine depth (.mark rfl rfl .nil)
    have hentry : ∀ e ∈ es, Spells (quote e.1 ++ ':' :: ' ' :: e.2.pretty (depth + 1))
        (.text e.1 :: .colon :: e.2.tokens) := fun e he =>
      spells_quote (((ih e he (depth + 1)).blank (c := ' ') rfl).mark rfl rfl) e.1
    have hentries := spells_joined (fun e he => spells_newLine (depth + 1) (hentry e he)) true
    cases es with
    | nil =>
      rw [pretty, tokens, entryTokens]
      exact .mark rfl rfl (.mark rfl rfl .nil)
    | cons e es =>
      rw [pretty, tokens, List.append_assoc, prettyEntries_eq, entryTokens_eq]
      exact (hentries.append hclose (noDigit_newLine _ _)).mark rfl rfl

/-- A value `x` with an entry a line is read as `x`, also if the text ends with a line feed. -/
theorem read?_pretty (x : Json) : read? (x.pretty 0 ++ ['\n']) = some x := by
  refine read?_of_spells ?_
  have h := (spells_pretty x 0).append (.blank (c := '\n') rfl .nil) (.cons rfl [])
  rwa [List.append_nil] at h

/-- Items that `read?` has one by one are read all. -/
theorem mapM_map {α β : Type} {write : α → Json} {read? : Json → Option β} {f : α → β}
    (h : ∀ a, read? (write a) = some (f a)) (as : List α) : (as.map write).mapM read? = some (as.map f) := by
  have hpure : read? ∘ write = fun a => pure (f a) := funext h
  rw [List.mapM_map, hpure, List.mapM_pure]
  rfl

/-! ## Control characters -/

/-- The text `cs` has no control character below the blank. -/
def NoControl (cs : List Char) : Prop := ∀ c ∈ cs, 0x20 ≤ c.toNat

private theorem noControl_append {cs ds : List Char} : NoControl (cs ++ ds) ↔ NoControl cs ∧ NoControl ds :=
  List.forall_mem_append

private theorem noControl_cons {c : Char} {cs : List Char} : NoControl (c :: cs) ↔ 0x20 ≤ c.toNat ∧ NoControl cs :=
  List.forall_mem_cons

private theorem noControl_nil : NoControl [] := List.forall_mem_nil _

private theorem noControl_escapeChar (c : Char) : NoControl (escapeChar c) := by
  have hdigits : ∀ n < 0x20, 0x20 ≤ (hexDigit (n / 16)).toNat ∧ 0x20 ≤ (hexDigit (n % 16)).toNat := by decide
  rcases escapeChar_cases c with ⟨e, -, he, -, hescape⟩ | ⟨hcontrol, hescape⟩ | ⟨-, -, hcontrol, hescape⟩
  · rw [hescape]
    exact noControl_cons.2 ⟨by decide, noControl_cons.2 ⟨he, noControl_nil⟩⟩
  · obtain ⟨hhigh, hlow⟩ := hdigits _ hcontrol
    rw [hescape]
    simp only [noControl_cons]
    exact ⟨by decide, by decide, by decide, by decide, hhigh, hlow, noControl_nil⟩
  · rw [hescape]
    exact noControl_cons.2 ⟨hcontrol, noControl_nil⟩

private theorem noControl_quote (s : String) : NoControl (quote s) := by
  rw [quote, List.cons_append, noControl_cons, noControl_append]
  refine ⟨by decide, fun d hd => ?_, noControl_cons.2 ⟨by decide, noControl_nil⟩⟩
  obtain ⟨c, -, hc⟩ := List.mem_flatMap.1 hd
  exact noControl_escapeChar c d hc

private theorem noControl_joined {parts : List (List Char)} (h : ∀ part ∈ parts, NoControl part) (first : Bool) :
    NoControl (joined ',' first parts) := by
  induction parts generalizing first with
  | nil => exact noControl_nil
  | cons part parts ih =>
    obtain ⟨hpart, hparts⟩ := List.forall_mem_cons.1 h
    have hcomma : NoControl (if first then [] else [',']) := by
      cases first with
      | true => exact noControl_nil
      | false => exact noControl_cons.2 ⟨by decide, noControl_nil⟩
    rw [joined, noControl_append, noControl_append]
    exact ⟨⟨hcomma, hpart⟩, ih hparts false⟩

/-- A value `x` on one line has no line feed, nor any other control character. -/
theorem noControl_compact (x : Json) : NoControl x.compact := by
  induction x using induction with
  | number n =>
    intro c hc
    have hdigit : '0'.toNat ≤ c.toNat ∧ c.toNat ≤ '9'.toNat :=
      Char.isDigit_iff_toNat.1 (Decimal.isDigit_of_mem_natDigits hc)
    exact Nat.le_trans (by decide) hdigit.1
  | text s => exact noControl_quote s
  | array xs ih =>
    have hitems := noControl_joined (List.forall_mem_map.2 ih) true
    rw [compact, compactItems_eq]
    exact noControl_append.2 ⟨noControl_cons.2 ⟨by decide, hitems⟩, noControl_cons.2 ⟨by decide, noControl_nil⟩⟩
  | object es ih =>
    have hentry : ∀ e ∈ es, NoControl (quote e.1 ++ ':' :: e.2.compact) := fun e he =>
      noControl_append.2 ⟨noControl_quote e.1, noControl_cons.2 ⟨by decide, ih e he⟩⟩
    have hentries := noControl_joined (List.forall_mem_map.2 hentry) true
    rw [compact, compactEntries_eq]
    exact noControl_append.2 ⟨noControl_cons.2 ⟨by decide, hentries⟩, noControl_cons.2 ⟨by decide, noControl_nil⟩⟩

end DatasetLint.Report.Json
