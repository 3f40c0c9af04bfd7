import DatasetLint.Proofs.Yaml.Scan
import DatasetLint.Proofs.Yaml.Style

/-!
# Pieces of a written text

How a scan reads the pieces of a text that a writer makes and that are no keys: the indicators of entries,
and a scalar in any style with the line end behind it.
-/

namespace DatasetLint.Yaml

open Writer

namespace Token.Scan

/-! ## One token -/

section Token

variable {s : Scan} {ls : List Kind} {x : Context} {m : Mark} {text : List Char}

private theorem Faces.mark_eq (h : s.Faces ls x m text) : s.mark = m := by
  rw [Scan.mark, h.stop, h.rest, here_marked]

private theorem Faces.inFlow_eq (h : s.Faces ls x m text) : s.inFlow = false := by
  rw [inFlow, h.keys]
  rfl

/-- A piece `c :: v` that is a token and goes on with the blanks `ws`. -/
theorem reads_of_token {next : List Char} (c : Char) (v ws : List Char) (ks : List Kind) {y : Context}
    (hws : ∀ c ∈ ws, isBlank c = true) (hnext : AtToken next)
    (h : ∀ (s : Scan) (ls : List Kind), s.Faces ls x m (c :: v ++ (ws ++ next)) →
      ∃ t : Scan, s.token c (marked (m.past c) (v ++ (ws ++ next))) = some t ∧
        t.Passed (ls ++ ks) y (m.through (c :: v)) ws next) :
    Reads next m (c :: v ++ ws) x (ks ++ ends (m.through (c :: v ++ ws)).column y.blocks)
      ⟨left (m.through (c :: v ++ ws)).column y.blocks, y.keyAllowed || ws.any isBreak⟩ := by
  rintro s ls ⟨hdone, hle, t, happroach, ht⟩
  rw [List.append_assoc] at hle ht
  obtain ⟨u, htoken, hu⟩ := h t ls ht
  obtain ⟨w, hrelease, hrest, hw⟩ := hu.release hws hnext
  rw [Mark.through_append, ← List.append_assoc]
  refine ⟨w, .token hdone happroach htoken ht.rest hrelease hle ?_, hw⟩
  rw [hrest, hu.rest, length_marked]
  exact (List.suffix_append v _).length_le

/-- Where a key is allowed, one is possible at the next token. -/
theorem Faces.saveKey_eq (h : s.Faces ls x m text) : ∃ k, s.saveKey = some { s with keys := [k] } ∧
    k.isSome = x.keyAllowed ∧ ∀ k' ∈ k, k'.required = (x.blocks.head? == some m.column) ∧
      k'.number = s.certain.length + s.queue.length ∧ k'.mark = m := by
  cases hallowed : x.keyAllowed with
  | false =>
    refine ⟨none, ?_, rfl, by simp⟩
    rw [saveKey, if_neg (by rw [h.keyAllowed, hallowed]; exact Bool.false_ne_true), ← h.keys]
  | true =>
    refine ⟨some ⟨s.block == some m.column, s.certain.length + s.queue.length, m⟩, ?_, rfl, fun k' hk => ?_⟩
    · rw [saveKey, if_pos (h.keyAllowed.trans hallowed)]
      simp only [dropKey, h.keys, h.inFlow_eq, h.mark_eq]
      rfl
    · cases hk
      rw [block, h.blocks]
      exact ⟨rfl, rfl, rfl⟩

/-- A token of a scalar, behind which `r` is left. -/
def take (s : Scan) (k : Kind) (stop : Mark) (r : Chars) (allowed : Bool) : Scan :=
  { s with rest := r, queue := s.queue ++ [⟨k, s.mark, stop⟩], keyAllowed := allowed }

private theorem nodeToken_eq {s' : Scan} (h : s.saveKey = some s') (k : Kind) (r : Chars) :
    s.nodeToken (some (k, r)) = some (s'.take k (Chars.here s'.stop r) r false) := by
  simp only [nodeToken, h]
  rfl

private theorem plainScalar_eq {s' : Scan} (h : s.saveKey = some s') {p : Plain}
    (hp : plainRest ⟨s.inFlow, s.block.elim 0 (· + 1), s.stop⟩ s.mark false .none s.rest = some p)
    (hmark : s'.mark = s.mark) :
    s.plainScalar = some (s'.take (.scalar (String.ofList p.text) .plain) p.stop p.rest p.atNewLine) := by
  rw [plainScalar, h]
  simp only [hp, take, push, hmark]

/-- The first character `c` decides that a plain scalar comes. -/
theorem token_plain {c : Char} {r : Chars} (hlead : isLeadIndicator c = false) (hgap : isGap c = false)
    (hblank : (c == '?' || c == ':' || c == '-') = true → r.atBlank = false) (hflow : s.inFlow = false)
    (hmarker : s.mark.column = 0 → Chars.atDocumentMarker s.rest = false) : s.token c r = s.plainScalar := by
  simp only [isLeadIndicator, Bool.or_eq_false_iff] at hlead
  have hstart : (s.mark.column == 0 && Chars.atDocumentMarker s.rest) = false := by
    by_cases h0 : s.mark.column = 0
    · rw [hmarker h0, Bool.and_false]
    · rw [beq_eq_false_iff_ne.2 h0, Bool.false_and]
  by_cases hind : (c == '?' || c == ':' || c == '-') = true
  · have hr := hblank hind
    have hsp : Chars.startsWith isGap r = false := by
      cases r with
      | nil => rfl
      | cons d r => exact (Bool.or_eq_false_iff.1 hr).1
    simp only [Bool.or_eq_true, beq_iff_eq] at hind
    rcases hind with (rfl | rfl) | rfl <;> simp [token, hstart, hflow, hr, startsPlain, hsp]
  · simp only [Bool.or_eq_true, beq_iff_eq, not_or] at hind
    have hplain : startsPlain s.inFlow c r = true := by
      simp [startsPlain, hgap, isIndicator, isFlowIndicator, hlead, hind]
    rw [hflow] at hplain
    simp [token, hstart, hflow, hlead, hind, hplain]

private theorem dropKey_eq (h : s.keys = [none]) : s.dropKey = some s := by
  simp only [dropKey, h, Option.any_none, Bool.false_eq_true, if_false]
  rw [← h]

/-- Possible keys on the same line and near enough stay possible. -/
theorem dropStale_of_fresh (h : ∀ k ∈ s.keys, ∀ k' ∈ k, PossibleKey.isStale s.mark k' = false) :
    s.dropStale = some s := by
  have hany : ∀ k ∈ s.keys, k.any (PossibleKey.isStale s.mark) = false := by
    intro k hk
    cases k with
    | none => rfl
    | some k' => exact h _ hk k' rfl
  have hmap : s.keys.map (fun k => if k.any (PossibleKey.isStale s.mark) then none else k) = s.keys := by
    rw [List.map_congr_left (g := id) fun k hk => by rw [hany k hk]; rfl, List.map_id]
  have hrequired : s.keys.any (fun k => k.any (PossibleKey.isStale s.mark) && k.any (·.required)) = false := by
    rw [List.any_eq_false]
    intro k hk
    rw [hany k hk, Bool.false_and]
    exact Bool.false_ne_true
  simp only [dropStale, hrequired, hmap]
  rfl

end Token

/-! ## Indicators -/

section Indicators

variable {next : List Char} {m : Mark} {bs : List Nat}

/-- The token `k` for a block collection that opens at an entry goes before what is queued from there on. -/
theorem openBlock_eq {s : Scan} (hflow : s.inFlow = false) (k : Kind) (n : Nat) {number i : Nat}
    (hi : number = s.certain.length + i) (m : Mark) : s.openBlock k n number m = { s with
      blocks := opened n s.blocks
      queue := if s.blocks.head?.all (· < n) then s.queue.insertIdx i ⟨k, m, m⟩ else s.queue } := by
  rw [openBlock, hflow, isDeeper_iff, opened, hi, Nat.add_sub_cancel_left]
  by_cases h : s.blocks.head?.all (· < n)
  · simp [h]
  · simp [h]

/-- An entry: its indicator `c` and a space. It opens the block collection `block` if it is deeper than the others.
-/
theorem reads_indicator (hnext : AtToken next) (hbs : bs.head?.all (· ≤ m.column)) {c : Char} {block k : Kind}
    (htoken : ∀ (s : Scan) (ls : List Kind), s.Faces ls ⟨bs, true⟩ m (c :: ' ' :: next) →
      s.token c (marked (m.past c) (' ' :: next)) =
        some { (s.openBlockHere block).indicator k 1 with keyAllowed := true }) (hc : isBreak c = false) :
    Reads next m [c, ' '] ⟨bs, true⟩ (opening block m.column bs ++ [k]) ⟨opened m.column bs, true⟩ := by
  have h := reads_of_token (x := ⟨bs, true⟩) (m := m) c [] [' ']
    (opening block m.column bs ++ [k]) (y := ⟨opened m.column bs, true⟩) (List.forall_mem_singleton.2 rfl) hnext
    fun s ls hs => ⟨_, htoken s ls hs, by
      rw [openBlockHere, hs.mark_eq, openBlock_eq hs.inFlow_eq _ _ (i := s.queue.length) rfl]
      refine ⟨?_, hs.stop, ?_, ?_, ⟨none, hs.keys, by simp⟩, rfl, hs.done⟩
      · show s.rest.drop 1 = _
        rw [hs.rest]
        rfl
      · rw [← hs.kinds, opening, hs.blocks]
        split <;> simp [Scan.kinds, indicator, push]
      · show opened m.column s.blocks = _
        rw [hs.blocks]⟩
  obtain ⟨bs', hopened⟩ := exists_opened hbs
  have hcolumn : m.column ≤ (m.through (c :: [] ++ [' '])).column := by
    rw [List.cons_append, Mark.through_cons, Mark.past_of_not_isBreak hc]
    exact Nat.le_add_right _ 2
  rw [hopened, ends_cons_of_le hcolumn, left_cons_of_le hcolumn, List.append_nil] at h
  rw [hopened]
  exact h

theorem atBlank_space (m : Mark) (r : Chars) : Chars.atBlank ((' ', m) :: r) = true := rfl

private theorem Faces.not_marker {s : Scan} {ls : List Kind} {x : Context} {c : Char}
    (h : s.Faces ls x m (c :: ' ' :: next)) (hc : c ≠ ' ') : s.rest.atDocumentMarker = false := by
  rw [h.rest]
  exact atDocumentMarker_pair hc m next

private theorem keys_openBlockHere {s : Scan} (hkeys : s.keys = [none]) (k : Kind) :
    (s.openBlockHere k).keys = [none] := by
  rw [openBlockHere, openBlock]
  split <;> exact hkeys

/-- The entry of a sequence. -/
theorem reads_dash (hnext : AtToken next) (hbs : bs.head?.all (· ≤ m.column)) : Reads next m ['-', ' '] ⟨bs, true⟩
    (opening .blockSequenceStart m.column bs ++ [.blockEntry]) ⟨opened m.column bs, true⟩ := by
  refine reads_indicator hnext hbs (fun s ls hs => ?_) rfl
  simp [token, hs.not_marker (by decide), atBlank_space, blockEntry, hs.inFlow_eq, hs.keyAllowed,
    dropKey_eq (keys_openBlockHere hs.keys .blockSequenceStart)]

/-- A key behind a question mark. -/
theorem reads_question (hnext : AtToken next) (hbs : bs.head?.all (· ≤ m.column)) : Reads next m ['?', ' ']
    ⟨bs, true⟩ (opening .blockMappingStart m.column bs ++ [.key]) ⟨opened m.column bs, true⟩ := by
  refine reads_indicator hnext hbs (fun s ls hs => ?_) rfl
  have hkeys := keys_openBlockHere hs.keys .blockMappingStart
  have hflow : (s.openBlockHere .blockMappingStart).inFlow = false := by
    rw [inFlow, hkeys]
    rfl
  simp [token, hs.not_marker (by decide), atBlank_space, explicitKey, hs.inFlow_eq, hs.keyAllowed,
    dropKey_eq hkeys, hflow]

theorem token_colon {s : Scan} (hmarker : s.rest.atDocumentMarker = false) {r : Chars} (hr : r.atBlank = true) :
    s.token ':' r = s.value := by
  simp [token, hmarker, hr]

/-- The value of such a key, which stands at the column of the mapping. -/
theorem reads_colon (hnext : AtToken next) : Reads next m [':', ' '] ⟨m.column :: bs, true⟩ [.value]
    ⟨m.column :: bs, true⟩ := by
  have htoken : ∀ (s : Scan) (ls : List Kind), s.Faces ls ⟨m.column :: bs, true⟩ m (':' :: ' ' :: next) →
      s.token ':' (marked (m.past ':') (' ' :: next)) =
        some { (s.openBlockHere .blockMappingStart).indicator .value 1 with keyAllowed := true } := by
    intro s ls hs
    rw [token_colon (hs.not_marker (by decide)) rfl]
    simp [value, hs.inFlow_eq, hs.keyAllowed, hs.keys]
  have h := reads_indicator hnext (by simp) htoken rfl
  rwa [opening_cons_self, opened_cons_self] at h

end Indicators

/-! ## Scalars -/

section Scalars

variable {next : List Char} {m : Mark} {bs : List Nat} {p n : Nat} {allowed : Bool}

/-- A line end and `n` spaces lead to the column `n`. -/
theorem column_lineEnd (m : Mark) (w : List Char) (n : Nat) : (m.through (w ++ '\n' :: spaces n)).column = n := by
  rw [Mark.through_append, Mark.through_cons, Mark.through_spaces]
  exact Nat.zero_add n

theorem line_lt_lineEnd (m : Mark) (w : List Char) (n : Nat) :
    m.line < (m.through (w ++ '\n' :: spaces n)).line := by
  rw [Mark.through_append, Mark.through_cons]
  have hline : ((m.through w).past '\n').line = (m.through w).line + 1 := rfl
  have hbefore := m.line_le_through w
  have hbehind := ((m.through w).past '\n').line_le_through (spaces n)
  omega

/-- So does a line end that is written only where the text `w` does not end with one. -/
theorem column_closed {w : List Char} (hne : w ≠ []) (hprint : Printed w) (m : Mark) (n : Nat) :
    (m.through (w ++ lineEnd w ++ spaces n)).column = n := by
  obtain ⟨ds, c, rfl⟩ : ∃ ds c, w = ds ++ [c] :=
    ⟨w.dropLast, w.getLast hne, (List.dropLast_concat_getLast hne).symm⟩
  have hc : isPrintable c = true := hprint c (by simp)
  rw [lineEnd_append_singleton, endsLine_eq_isBreak hc]
  split
  · rename_i hbreak
    rw [List.append_nil, Mark.through_append, Mark.through_append, Mark.through_cons, Mark.past_of_isBreak hbreak,
      Mark.through_nil, Mark.through_spaces]
    exact Nat.zero_add n
  · rw [List.append_assoc (ds ++ [c])]
    exact column_lineEnd m (ds ++ [c]) n

theorem isBlank_of_mem_spaces {n : Nat} {c : Char} (h : c ∈ spaces n) : isBlank c = true := by
  rw [spaces, List.mem_replicate] at h
  rw [h.2]
  rfl

/-- A scalar that could be a key is none if a line ends behind it. -/
theorem reads_taken {c : Char} {v ws : List Char} {k : Kind} {b : Bool} (hm : p < m.column)
    (hws : ∀ c ∈ ws, isBlank c = true) (hnext : AtToken next) (hcolumn : (m.through (c :: v ++ ws)).column = n)
    (hline : m.line < (m.through (c :: v ++ ws)).line) (hb : (b || ws.any isBreak) = true)
    (htoken : ∀ (s s' : Scan) (ls : List Kind), s.Faces ls ⟨p :: bs, allowed⟩ m (c :: v ++ (ws ++ next)) →
      s.saveKey = some s' → s'.mark = s.mark → ∃ stop, s.token c (marked (m.past c) (v ++ (ws ++ next))) =
        some (s'.take k stop (marked (m.through (c :: v)) (ws ++ next)) b)) :
    Reads next m (c :: v ++ ws) ⟨p :: bs, allowed⟩ (k :: ends n (p :: bs)) ⟨left n (p :: bs), true⟩ := by
  have h := reads_of_token (x := ⟨p :: bs, allowed⟩) c v ws [k] (y := ⟨p :: bs, b⟩) hws hnext fun s ls hs => by
    -- the key that was saved is on the line that ends, so it is given up later
    obtain ⟨k', hsave, -, hk'⟩ := hs.saveKey_eq
    obtain ⟨stop, htake⟩ := htoken s _ ls hs hsave rfl
    refine ⟨_, htake, rfl, ?_, ?_, hs.blocks, ⟨k', rfl, fun l hl => ?_⟩, rfl, hs.done⟩
    · show s.stop = _
      rw [hs.stop, Mark.through_append]
    · rw [← hs.kinds]
      simp [Scan.kinds, take]
    · obtain ⟨hrequired, -, hmark⟩ := hk' l hl
      rw [hrequired, hmark, ← Mark.through_append]
      refine ⟨?_, hline⟩
      rw [List.head?_cons, beq_eq_false_iff_ne]
      exact fun e => Nat.ne_of_lt hm (Option.some.inj e)
  rw [hcolumn, hb] at h
  exact h

/-- What a text without indicators begins with. -/
theorem hasIndicator_cons {c : Char} {v : List Char} (h : hasIndicator (c :: v) = false) :
    isLeadIndicator c = false ∧ ((c == '?' || c == ':' || c == '-') && spacingNext v) = false ∧
      hasInnerIndicator false (c :: v) = false := by
  simp only [hasIndicator, Bool.or_eq_false_iff] at h
  obtain ⟨⟨⟨-, hlead⟩, hspacing⟩, hinner⟩ := h
  refine ⟨hlead, hspacing, ?_⟩
  have hcolon : (c == ':' && spacingNext v) = false := by
    cases hc : c == ':' with
    | false => rfl
    | true =>
      rw [hc, Bool.or_true, Bool.true_or] at hspacing
      exact hspacing
  rw [hasInnerIndicator, hcolon, hinner, Bool.and_false]
  rfl

/-- The first character `c` of a plain text begins a plain scalar, and all of it belongs to the scalar. -/
theorem token_plainAllowed {s s' : Scan} {ls : List Kind} {c : Char} {v tail : List Char} {rest : Chars} {b : Bool}
    (hs : s.Faces ls ⟨bs, allowed⟩ m (c :: v ++ tail)) (hsave : s.saveKey = some s') (hmark : s'.mark = s.mark)
    (h : plainAllowed (c :: v) = true) (hcolumn : bs.head?.all (· ≤ m.column))
    (hmarker : m.column = 0 → Chars.atDocumentMarker (marked m (c :: v ++ tail)) = false)
    (hrest : ∀ stop last, plainRest ⟨false, bs.head?.elim 0 (· + 1), stop⟩ last false .none
      (marked (m.through (c :: v)) tail) = some ⟨[], last, rest, b⟩) :
    ∃ stop, s.token c (marked (m.past c) (v ++ tail)) =
      some (s'.take (.scalar (String.ofList (c :: v)) .plain) stop rest b) := by
  obtain ⟨hborder, hprint, hline, -, hindicator⟩ := plainAllowed_iff.1 h
  obtain ⟨hlead, hspacing, hinner⟩ := hasIndicator_cons hindicator
  simp only [bordered, List.head?_cons, Option.any_some, Bool.or_eq_false_iff] at hborder
  rw [printed_cons] at hprint
  rw [List.forall_mem_cons] at hline
  have hgap : isGap c = false := by
    rw [isGap_eq_of_isPrintable hprint.1]
    exact hborder.1.1
  have hlast : (c :: v).getLast? ≠ some ' ' := by
    intro e
    rw [e] at hborder
    exact absurd hborder.2 (by decide)
  have hblank : (c == '?' || c == ':' || c == '-') = true →
      Chars.atBlank (marked (m.past c) (v ++ tail)) = false := by
    intro hc
    rw [hc, Bool.true_and] at hspacing
    cases v with
    | nil => cases hspacing
    | cons d v =>
      rw [spacingNext, isSpacing_eq_of_isPrintable (printed_cons.1 hprint.2).1] at hspacing
      exact hspacing
  have hindent : bs.head?.elim 0 (· + 1) ≤ m.column + 1 := by
    cases bs with
    | nil => exact Nat.zero_le _
    | cons b bs => simpa using hcolumn
  rw [token_plain hlead hgap hblank hs.inFlow_eq fun h0 => by rw [hs.rest]; exact hmarker (hs.mark_eq ▸ h0)]
  obtain ⟨last, hplain⟩ := plainRest_append (x := ⟨false, bs.head?.elim 0 (· + 1), s.stop⟩) rfl
    (List.cons_ne_nil c v) (printed_cons.2 hprint) (List.forall_mem_cons.2 hline) hlast hinner
    (fun h : false = true => absurd h Bool.false_ne_true) hindent (by simp) hmarker m []
  rw [hrest] at hplain
  refine ⟨last, ?_⟩
  have heq := plainScalar_eq hsave (p := ⟨c :: v, last, rest, b⟩) ?_ hmark
  · exact heq
  · rw [hs.inFlow_eq, hs.mark_eq, hs.rest, block, hs.blocks]
    rw [Option.map_some, List.append_nil, List.nil_append] at hplain
    exact hplain

/-- A scalar behind the quote `c` stands in single or in double quotes. -/
theorem token_quote {s s' : Scan} {c : Char} (hc : c = '\'' ∨ c = '"') {v rest : List Char} {m' : Mark}
    (hsave : s.saveKey = some s') (hs : s.rest = marked m (c :: v)) {t : List Char} {style : Style}
    (hread : (style = .singleQuoted ∧ c = '\'' ∧
        singleQuoted false .none (marked (m.past c) v) = some (t, marked m' rest)) ∨
      (style = .doubleQuoted ∧ c = '"' ∧
        doubleQuoted (.text .none) (marked (m.past c) v) = some (t, marked m' rest))) :
    ∃ stop, s.token c (marked (m.past c) v) =
      some (s'.take (.scalar (String.ofList t) style) stop (marked m' rest) false) := by
  have hmarker : s.rest.atDocumentMarker = false := by
    rw [hs, marked_cons]
    exact atDocumentMarker_cons (by rcases hc with rfl | rfl <;> decide) m _
  rcases hread with ⟨rfl, rfl, hread⟩ | ⟨rfl, rfl, hread⟩
  · refine ⟨_, Eq.trans ?_ (nodeToken_eq hsave _ _)⟩
    simp [token, hmarker, hread]
  · refine ⟨_, Eq.trans ?_ (nodeToken_eq hsave _ _)⟩
    simp [token, hmarker, hread]

/-- A text `cs` in quotes is read up to the quote that closes it. -/
theorem token_quoted {s s' : Scan} {ls : List Kind} {asKey : Bool} {cs tail : List Char} {style : Style} {i : Nat}
    (hi : 0 < i) (h : Admits asKey cs style) (hstyle : style = .singleQuoted ∨ style = .doubleQuoted)
    (htail : tail.head? ≠ some '\'') {c : Char} {v : List Char} (hv : scalarText i style cs = c :: v)
    (hs : s.Faces ls ⟨bs, allowed⟩ m (c :: v ++ tail)) (hsave : s.saveKey = some s') :
    ∃ stop, s.token c (marked (m.past c) (v ++ tail)) =
      some (s'.take (.scalar (String.ofList cs) style) stop (marked (m.through (c :: v)) tail) false) := by
  have hcolumn : ∀ d, isBreak d = false → 0 < (m.past d).column := by
    intro d hd
    rw [Mark.past_of_not_isBreak hd]
    exact Nat.succ_pos _
  cases h with
  | singleQuoted hnl hkey h =>
    obtain ⟨hprint, hspace, hbreak⟩ := singleAllowed_iff.1 h
    cases hv
    refine token_quote (.inl rfl) hsave hs.rest (.inl ⟨rfl, rfl, ?_⟩)
    show singleQuoted false .none (marked _ (singleBody i false cs ++ ['\''] ++ tail)) = _
    rw [List.append_assoc, List.singleton_append]
    exact (singleQuoted_singleBody hi hprint hspace hbreak hnl htail).1 [] _
      (Nat.ne_of_gt (hcolumn '\'' rfl)) (.inl rfl)
  | doubleQuoted =>
    cases hv
    refine token_quote (.inr rfl) hsave hs.rest (.inr ⟨rfl, rfl, ?_⟩)
    show doubleQuoted (.text .none) (marked _ (cs.flatMap doubleChar ++ ['"'] ++ tail)) = _
    rw [List.append_assoc, List.singleton_append]
    exact doubleQuoted_flatMap (hcolumn '"' rfl) cs [] tail
  | _ => rcases hstyle with h | h <;> cases h

/-- A block is read up to the first line that is not deeper than the collection around it. -/
theorem token_bar {s : Scan} {cs : List Char} {r r' : Chars} (hmarker : s.rest.atDocumentMarker = false)
    (hflow : s.inFlow = false) (hkeys : s.keys = [none]) (hrest : s.rest.drop 1 = r)
    (hread : Token.blockScalar true s.block s.stop r = some (cs, r')) :
    s.token '|' r = some { s.accept (.scalar (String.ofList cs) .literal) r' with keyAllowed := true } := by
  have htoken : s.token '|' r = s.blockScalar true := by simp [token, hmarker, hflow]
  rw [htoken]
  simp only [Scan.blockScalar, dropKey_eq hkeys, hrest, hread, if_true]

/-- A block `cs`, behind which its last line has ended. -/
theorem reads_literal (hn : n ≤ p) (hnext : AtToken next) {cs : List Char} (h : Admits false cs .literal) :
    Reads next m (scalarText (p + 2) .literal cs ++ lineEnd (scalarText (p + 2) .literal cs) ++ spaces n)
      ⟨p :: bs, allowed⟩ (.scalar (String.ofList cs) .literal :: ends n (p :: bs)) ⟨left n (p :: bs), true⟩ := by
  have hcolumn := column_closed (scalarText_ne_nil h (p + 2)) (printed_scalarText h (p + 2)) m n
  obtain ⟨hne, hprint⟩ : cs ≠ [] ∧ Printed cs := by
    cases h with
    | literal hkey hblock => exact blockAllowed_imp hblock
  let v := indentHint cs ++ chompHint cs ++ '\n' :: (blockBody (p + 2) true cs ++
    (blockEnding (finalBreaks 1 cs) ++ spaces n))
  have hshape : scalarText (p + 2) .literal cs ++ lineEnd (scalarText (p + 2) .literal cs) ++ spaces n =
      '|' :: v ++ [] := by
    rw [lineEnd_scalarText h]
    simp [v, scalarText]
  have hread := reads_of_token (x := ⟨p :: bs, allowed⟩) (m := m) '|' v []
    [.scalar (String.ofList cs) .literal] (y := ⟨p :: bs, true⟩) (List.forall_mem_nil _) hnext fun s ls hs => by
      have hmarker : s.rest.atDocumentMarker = false := by
        rw [hs.rest]
        exact atDocumentMarker_cons (by decide) m _
      have htext : indentHint cs ++ chompHint cs ++ '\n' :: (blockBody (p + 2) true cs ++
          (blockEnding (finalBreaks 1 cs) ++ spaces n ++ next)) = v ++ ([] ++ next) := by
        simp [v]
      have hscalar := blockScalar_scalarText hn hne hprint hnext s.stop (m.past '|')
      rw [htext, ← show s.block = some p by rw [block, hs.blocks]; rfl] at hscalar
      refine ⟨_, token_bar hmarker hs.inFlow_eq hs.keys (by rw [hs.rest]; rfl) hscalar, rfl, ?_, ?_, hs.blocks,
        ⟨none, hs.keys, by simp⟩, rfl, hs.done⟩
      · show s.stop = _
        rw [hs.stop, Mark.through_append]
      · rw [← hs.kinds]
        simp [Scan.kinds, accept, push]
  rw [hshape] at hcolumn ⊢
  rw [hcolumn] at hread
  exact hread

/-- A scalar in any style with the line end behind it, inside the block collection at column `p`. -/
theorem reads_scalar (hm : p < m.column) (hn : n ≤ p) (hnext : AtToken next) {cs : List Char} {style : Style}
    (h : Admits false cs style) : Reads next m
      (scalarText (p + 2) style cs ++ lineEnd (scalarText (p + 2) style cs) ++ spaces n) ⟨p :: bs, allowed⟩
      (.scalar (String.ofList cs) style :: ends n (p :: bs)) ⟨left n (p :: bs), true⟩ := by
  have hblanks : ∀ c ∈ '\n' :: spaces n, isBlank c = true :=
    List.forall_mem_cons.2 ⟨rfl, fun c hc => isBlank_of_mem_spaces hc⟩
  have hquoted : style = .singleQuoted ∨ style = .doubleQuoted → Reads next m
      (scalarText (p + 2) style cs ++ ['\n'] ++ spaces n) ⟨p :: bs, allowed⟩
      (.scalar (String.ofList cs) style :: ends n (p :: bs)) ⟨left n (p :: bs), true⟩ := by
    intro hstyle
    obtain ⟨c, v, hv⟩ := List.exists_cons_of_ne_nil (scalarText_ne_nil h (p + 2))
    rw [hv, List.append_assoc, List.singleton_append]
    exact reads_taken (b := false) hm hblanks hnext (column_lineEnd m (c :: v) n) (line_lt_lineEnd m (c :: v) n) rfl
      fun s s' ls hs hsave _ =>
        token_quoted (by omega) h hstyle (by simp) hv hs hsave
  cases style with
  | literal => exact reads_literal hn hnext h
  | folded => cases h
  | singleQuoted =>
    rw [lineEnd_scalarText h]
    exact hquoted (.inl rfl)
  | doubleQuoted =>
    rw [lineEnd_scalarText h]
    exact hquoted (.inr rfl)
  | plain =>
    obtain ⟨hne, hplain⟩ : cs ≠ [] ∧ plainAllowed cs = true := by
      cases h with
      | plain hne hplain => exact ⟨hne, hplain⟩
    obtain ⟨c, v, rfl⟩ := List.exists_cons_of_ne_nil hne
    have hshape : scalarText (p + 2) .plain (c :: v) ++ ['\n'] ++ spaces n =
        c :: (v ++ '\n' :: spaces n) ++ [] := by
      simp [scalarText]
    have htext : v ++ '\n' :: spaces n ++ ([] ++ next) = v ++ ('\n' :: spaces n ++ next) := by simp
    rw [lineEnd_scalarText h, if_neg (by decide), hshape]
    refine reads_taken (b := true) hm (List.forall_mem_nil _) hnext ?_ ?_ rfl fun s s' ls hs hsave hmark => ?_
    · rw [List.append_nil]
      exact column_lineEnd m (c :: v) n
    · rw [List.append_nil]
      exact line_lt_lineEnd m (c :: v) n
    · rw [List.cons_append, htext] at hs
      rw [htext]
      refine token_plainAllowed hs hsave hmark hplain (by simpa using Nat.le_of_lt hm) (fun h0 => by omega)
        fun stop last => ?_
      rw [plainRest_lineEnd rfl (show n < p + 1 by omega) hnext, ← Mark.through_append]
      rfl

end Scalars

end Token.Scan

end DatasetLint.Yaml
