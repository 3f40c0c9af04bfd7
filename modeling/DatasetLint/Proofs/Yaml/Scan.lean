import DatasetLint.Proofs.Yaml.Plain

/-!
# Scanning a printable text

What a scan does from one token to the next, without its queue: `Reads` says which kinds of tokens a
piece of a text adds, and how it changes the open block collections and whether a key may begin. Pieces that
follow one another compose, and a whole text that is read is read by `run` with the fuel it is given.
-/

namespace DatasetLint.Yaml

open Writer

namespace Token.Scan

/-! ## States -/

/-- The kinds of all tokens so far, certain or not. -/
def kinds (s : Scan) : List Kind := (s.certain.reverse ++ s.queue).map (·.kind)

/-- The open block collections, the innermost first, and whether a key may begin. -/
structure Context where
  blocks : List Nat
  keyAllowed : Bool

/-- The scan is about to read a token at the start of `text`; `ks` came before, and no key is possible. -/
structure Faces (s : Scan) (ks : List Kind) (x : Context) (m : Mark) (text : List Char) : Prop where
  rest : s.rest = marked m text
  stop : s.stop = m.through text
  kinds : s.kinds = ks
  blocks : s.blocks = x.blocks
  keys : s.keys = [none]
  keyAllowed : s.keyAllowed = x.keyAllowed
  done : s.done = false

/-- To the next token: blanks, keys that are past and the ends of blocks lie before it. -/
def approach (s : Scan) : Option Scan :=
  s.toNextToken.dropStale.map fun s => s.closeBlocks (some s.mark.column) s.mark

theorem fetch_eq (s : Scan) : s.fetch = s.approach.bind fun s =>
    match s.rest with
    | [] => s.atEnd
    | (c, _) :: r => s.token c r := by
  rw [fetch, approach]
  cases s.toNextToken.dropStale with
  | none => rfl
  | some t => rfl

/-- The scan `Faces` a token once it has passed over what lies before it. -/
def Nears (s : Scan) (ks : List Kind) (x : Context) (m : Mark) (text : List Char) : Prop :=
  s.done = false ∧ text.length ≤ s.rest.length ∧ ∃ t, s.approach = some t ∧ t.Faces ks x m text

/-- The scan gets from one state to another, each time passing over a character. -/
inductive Reaches : Scan → Scan → Prop
  | refl (s : Scan) : Reaches s s
  | step {s t u : Scan} (hdone : s.done = false) (h : s.fetch.bind release = some t)
    (hlt : t.rest.length < s.rest.length) (hu : Reaches t u) : Reaches s u

theorem Reaches.trans {s t u : Scan} (h : Reaches s t) (hu : Reaches t u) : Reaches s u := by
  induction h with
  | refl s => exact hu
  | step hdone h hlt _ ih => exact .step hdone h hlt (ih hu)

/-- A token is read and what is certain then is released, with the character `c` of the token passed. -/
theorem Reaches.token {s t u v : Scan} {c : Char} {m : Mark} {text : List Char} (hdone : s.done = false)
    (happroach : s.approach = some t) (htoken : t.token c (marked (m.past c) text) = some u)
    (hrest : t.rest = marked m (c :: text)) (hrelease : u.release = some v)
    (hle : (c :: text).length ≤ s.rest.length) (hv : v.rest.length ≤ text.length) : Reaches s v := by
  refine .step hdone ?_ (Nat.lt_of_le_of_lt hv hle) (.refl v)
  rw [fetch_eq, happroach, Option.bind_some, hrest, marked_cons]
  simp only [htoken, Option.bind_some, hrelease]

/-- Fuel above the number of characters is left above it. -/
theorem Reaches.run_eq {s t : Scan} (h : Reaches s t) (k : Nat) :
    ∃ k', k ≤ k' ∧ run (s.rest.length + k) s = run (t.rest.length + k') t := by
  induction h generalizing k with
  | refl s => exact ⟨k, Nat.le_refl k, rfl⟩
  | @step s t u hdone h hlt _ ih =>
    -- one unit of fuel goes with at least one character
    obtain ⟨j, hj⟩ : ∃ j, s.rest.length + k = t.rest.length + j + 1 :=
      ⟨s.rest.length + k - 1 - t.rest.length, by omega⟩
    obtain ⟨k', hk, e⟩ := ih j
    refine ⟨k', by omega, ?_⟩
    rw [← e, hj, run, hdone, h]
    rfl

/-- Before `next` the text `w` is read as tokens of the kinds `ks`, the last of which may end blocks. -/
def Reads (next : List Char) (m : Mark) (w : List Char) (x : Context) (ks : List Kind) (y : Context) : Prop :=
  ∀ s ls, s.Nears ls x m (w ++ next) → ∃ t, Reaches s t ∧ t.Nears (ls ++ ks) y (m.through w) next

theorem Reads.trans {next : List Char} {m : Mark} {v w : List Char} {x y z : Context} {ks ls : List Kind}
    (h : Reads (w ++ next) m v x ks y) (h' : Reads next (m.through v) w y ls z) :
    Reads next m (v ++ w) x (ks ++ ls) z := by
  intro s js hs
  rw [List.append_assoc] at hs
  obtain ⟨t, hst, ht⟩ := h s js hs
  obtain ⟨u, htu, hu⟩ := h' t _ ht
  rw [← List.append_assoc, Mark.through_append]
  exact ⟨u, hst.trans htu, hu⟩

/-! ## Blocks -/

/-- The block collections that are open at the column `n`. -/
def left (n : Nat) (blocks : List Nat) : List Nat := blocks.dropWhile (n < ·)

/-- The ends of those that are deeper. -/
def ends (n : Nat) (blocks : List Nat) : List Kind := (blocks.takeWhile (n < ·)).map fun _ => .blockEnd

/-- The block collections that are open at an entry at the column `n`: it opens one that is deeper. -/
def opened (n : Nat) (blocks : List Nat) : List Nat := if blocks.head?.all (· < n) then n :: blocks else blocks

/-- The token for that. -/
def opening (k : Kind) (n : Nat) (blocks : List Nat) : List Kind :=
  if blocks.head?.all (· < n) then [k] else []

@[simp] theorem left_nil (n : Nat) : left n [] = [] := rfl

@[simp] theorem ends_nil (n : Nat) : ends n [] = [] := rfl

theorem left_cons_of_lt {n b : Nat} (h : n < b) (bs : List Nat) : left n (b :: bs) = left n bs := by
  rw [left, List.dropWhile_cons_of_pos (by simpa using h)]
  rfl

theorem ends_cons_of_lt {n b : Nat} (h : n < b) (bs : List Nat) : ends n (b :: bs) = .blockEnd :: ends n bs := by
  rw [ends, List.takeWhile_cons_of_pos (by simpa using h)]
  rfl

theorem left_cons_of_le {n b : Nat} (h : b ≤ n) (bs : List Nat) : left n (b :: bs) = b :: bs := by
  rw [left, List.dropWhile_cons_of_neg (by simpa using h)]

theorem ends_cons_of_le {n b : Nat} (h : b ≤ n) (bs : List Nat) : ends n (b :: bs) = [] := by
  rw [ends, List.takeWhile_cons_of_neg (by simpa using h)]
  rfl

/-- The innermost block collection at an entry is at the entry's column `n`, if none was deeper. -/
theorem exists_opened {n : Nat} {blocks : List Nat} (h : blocks.head?.all (· ≤ n)) :
    ∃ bs, opened n blocks = n :: bs := by
  rw [opened]
  split
  · exact ⟨blocks, rfl⟩
  · rename_i hlt
    cases blocks with
    | nil => exact absurd rfl hlt
    | cons b bs =>
      simp only [List.head?_cons, Option.all_some, decide_eq_true_eq] at h hlt
      exact ⟨bs, by rw [show b = n by omega]⟩

theorem opened_cons_self (n : Nat) (bs : List Nat) : opened n (n :: bs) = n :: bs := by
  simp [opened]

theorem opening_cons_self (k : Kind) (n : Nat) (bs : List Nat) : opening k n (n :: bs) = [] := by
  simp [opening]

theorem opened_cons_of_lt {n b : Nat} (h : b < n) (bs : List Nat) : opened n (b :: bs) = n :: b :: bs := by
  simp [opened, h]

theorem opening_cons_of_lt {n b : Nat} (h : b < n) (k : Kind) (bs : List Nat) :
    opening k n (b :: bs) = [k] := by
  simp [opening, h]

theorem isDeeper_iff (s : Scan) (n : Nat) : s.isDeeper n = s.blocks.head?.all (· < n) := rfl

theorem closeBlocks_eq {s : Scan} (h : s.inFlow = false) (n : Nat) (m : Mark) :
    s.closeBlocks (some n) m = { s with
      blocks := left n s.blocks
      queue := s.queue ++ (s.blocks.takeWhile (n < ·)).map fun _ => ⟨.blockEnd, m, m⟩ } := by
  have hdrop : s.blocks.drop (s.blocks.takeWhile (n < ·)).length = left n s.blocks := by
    have h := congrArg (List.drop (s.blocks.takeWhile (n < ·)).length)
      (List.takeWhile_append_dropWhile (p := (n < ·)) (l := s.blocks))
    rw [List.drop_left] at h
    exact h.symm
  rw [closeBlocks, h, ← hdrop]
  rfl

/-! ## Between tokens -/

/-- Whether `c` may stand between tokens. -/
def isBlank (c : Char) : Bool := c == ' ' || isBreak c

private theorem skipBlanks_marked {ws next : List Char} (hws : ∀ c ∈ ws, isBlank c = true) (hnext : AtToken next)
    (flow allowed : Bool) (m : Mark) : skipBlanks flow false allowed (marked m (ws ++ next)) =
      (marked (m.through ws) next, allowed || (!flow && ws.any isBreak)) := by
  induction ws generalizing allowed m with
  | nil =>
    cases next with
    | nil => simp [skipBlanks]
    | cons c next =>
      obtain ⟨hgap, hbreak, hhash, -⟩ := atToken_cons.1 hnext
      simp only [isGap, Bool.or_eq_false_iff] at hgap
      simp [skipBlanks, hbreak, hgap, hhash]
  | cons c ws ih =>
    rw [List.forall_mem_cons] at hws
    rw [List.cons_append, marked_cons, skipBlanks]
    cases hbreak : isBreak c with
    | true => cases flow <;> simp [ih hws.2, hbreak]
    | false =>
      have hc : c = ' ' := by simpa [isBlank, hbreak] using hws.1
      subst hc
      simp [ih hws.2, hbreak]

theorem releaseFrom_append (keys : List (Option PossibleKey)) (certain queue : List Token) :
    (releaseFrom keys certain queue).1.reverse ++ (releaseFrom keys certain queue).2 =
      certain.reverse ++ queue := by
  induction queue generalizing certain with
  | nil => rfl
  | cons t q ih =>
    rw [releaseFrom]
    split
    · rfl
    · rw [ih, List.reverse_cons, List.append_assoc, List.singleton_append]

/-- A token was read: `v` behind `m` is passed and `ws` lies before the next token. If a key is possible, a line
ends before it is known to be one. -/
structure Passed (s : Scan) (ks : List Kind) (x : Context) (m : Mark) (ws next : List Char) : Prop where
  rest : s.rest = marked m (ws ++ next)
  stop : s.stop = m.through (ws ++ next)
  kinds : s.kinds = ks
  blocks : s.blocks = x.blocks
  keys : ∃ k, s.keys = [k] ∧ ∀ k' ∈ k, k'.required = false ∧ k'.mark.line < (m.through ws).line
  keyAllowed : s.keyAllowed = x.keyAllowed
  done : s.done = false

/-- A possible key `k` that is not required is given up once it is past. -/
theorem dropStale_eq {s : Scan} {k : Option PossibleKey} (hkeys : s.keys = [k])
    (hk : ∀ k' ∈ k, k'.required = false) :
    s.dropStale = some { s with keys := [if k.any (PossibleKey.isStale s.mark) then none else k] } := by
  have hrequired : k.any (·.required) = false := by
    cases k with
    | none => rfl
    | some k' => exact hk k' rfl
  simp [dropStale, hkeys, hrequired]

/-- The blanks `ws` before a token are passed over. -/
theorem toNextToken_eq {s : Scan} {m : Mark} {ws next : List Char} (hrest : s.rest = marked m (ws ++ next))
    (hws : ∀ c ∈ ws, isBlank c = true) (hnext : AtToken next) : s.toNextToken = { s with
      rest := marked (m.through ws) next, keyAllowed := s.keyAllowed || (!s.inFlow && ws.any isBreak) } := by
  have hhead : ∀ c ∈ (ws ++ next).head?, (c == '\ufeff') = false := by
    intro c hc
    rw [beq_eq_false_iff_ne]
    cases ws with
    | nil =>
      cases next with
      | nil => cases hc
      | cons d next =>
        cases hc
        exact (atToken_cons.1 hnext).2.2.2
    | cons d ws =>
      cases hc
      rintro rfl
      exact absurd (hws _ (List.mem_cons_self ..)) (by decide)
  have hskip := skipBlanks_marked hws hnext s.inFlow s.keyAllowed m
  generalize ws ++ next = cs at hrest hhead hskip
  cases cs with
  | nil =>
    rw [marked_nil] at hskip
    simp only [toNextToken, hrest, marked_nil, hskip]
  | cons c cs =>
    have hstart : (if c == '\ufeff' && m.index == 0 then marked (m.past c) cs else marked m (c :: cs)) =
        marked m (c :: cs) := by
      rw [hhead c rfl, Bool.false_and, if_neg Bool.false_ne_true]
    simp only [toNextToken, hrest]
    simp only [marked_cons] at hstart hskip ⊢
    rw [hstart, hskip]

theorem toNextToken_self {s : Scan} {m : Mark} {next : List Char} (hrest : s.rest = marked m next)
    (hnext : AtToken next) : s.toNextToken = s := by
  have hrest' : s.rest = marked m ([] ++ next) := hrest
  rw [toNextToken_eq hrest' (List.forall_mem_nil _) hnext, Mark.through_nil, ← hrest]
  simp

/-- On a later line than its own such a key is past. -/
theorem dropStale_of_past {s : Scan} {k : Option PossibleKey} (hkeys : s.keys = [k])
    (hk : ∀ k' ∈ k, k'.required = false ∧ k'.mark.line < s.mark.line) :
    s.dropStale = some { s with keys := [none] } := by
  rw [dropStale_eq hkeys fun l hl => (hk l hl).1]
  cases k with
  | none => rfl
  | some l =>
    have hstale : PossibleKey.isStale s.mark l = true := by
      simp [PossibleKey.isStale, (hk l rfl).2]
    simp [hstale]

/-- What is released is no token less, and makes no key possible. -/
theorem exists_release {s : Scan} {k : Option PossibleKey} (hkeys : s.keys = [k])
    (hk : ∀ k' ∈ k, k'.required = false) : ∃ k' certain queue,
      s.release = some { s with keys := [k'], certain := certain, queue := queue } ∧ (∀ l ∈ k', l ∈ k) ∧
        certain.reverse ++ queue = s.certain.reverse ++ s.queue := by
  rw [Scan.release, dropStale_eq hkeys hk]
  refine ⟨_, _, _, rfl, fun l hl => ?_, releaseFrom_append ..⟩
  split at hl
  · cases hl
  · exact hl

/-- Behind a token the scan `Nears` the next one. -/
theorem Passed.release {s : Scan} {ks : List Kind} {x : Context} {m : Mark} {ws next : List Char}
    (h : s.Passed ks x m ws next) (hws : ∀ c ∈ ws, isBlank c = true) (hnext : AtToken next) :
    ∃ t, s.release = some t ∧ t.rest = s.rest ∧
      t.Nears (ks ++ ends (m.through ws).column x.blocks)
        ⟨left (m.through ws).column x.blocks, x.keyAllowed || ws.any isBreak⟩ (m.through ws) next := by
  obtain ⟨k, hkeys, hk⟩ := h.keys
  obtain ⟨k', certain, queue, hrelease, hk', hqueue⟩ := exists_release hkeys fun l hl => (hk l hl).1
  let t : Scan := { s with keys := [k'], certain := certain, queue := queue }
  have hnextToken := toNextToken_eq (s := t) h.rest hws hnext
  have hmark : t.toNextToken.mark = m.through ws := by
    rw [hnextToken, Scan.mark]
    show Chars.here s.stop _ = _
    rw [h.stop, Mark.through_append, here_marked]
  let u : Scan := { t with
    rest := marked (m.through ws) next, keys := [none], keyAllowed := s.keyAllowed || ws.any isBreak }
  -- a key that is left began on an earlier line than the next token
  have hdrop : t.toNextToken.dropStale = some u := by
    have hkeys' : t.toNextToken.keys = [k'] := by rw [hnextToken]
    rw [dropStale_of_past hkeys' fun l hl => hmark ▸ hk l (hk' l hl), hnextToken]
    rfl
  have happroach : t.approach = some (u.closeBlocks (some (m.through ws).column) (m.through ws)) := by
    rw [approach, hdrop, ← hmark, hnextToken]
    rfl
  have hkinds : t.kinds = ks := by rw [← h.kinds, Scan.kinds, Scan.kinds, hqueue]
  refine ⟨t, hrelease, rfl, h.done, ?_, _, happroach, ?_⟩
  · show next.length ≤ s.rest.length
    rw [h.rest, length_marked, List.length_append]
    omega
  · rw [closeBlocks_eq rfl]
    refine ⟨rfl, ?_, ?_, congrArg _ h.blocks, rfl, ?_, h.done⟩
    · rw [← Mark.through_append]
      exact h.stop
    · rw [← hkinds, ← h.blocks, ends]
      simp only [Scan.kinds, List.map_append, List.map_map, List.append_assoc]
      rfl
    · show (s.keyAllowed || _) = _
      rw [h.keyAllowed]

/-! ## A whole text -/

private theorem releaseFrom_none (certain queue : List Token) :
    releaseFrom [none] certain queue = (queue.reverse ++ certain, []) := by
  induction queue generalizing certain with
  | nil => rfl
  | cons t q ih =>
    rw [releaseFrom]
    simp [ih]

private theorem closing_none (blocks : List Nat) : closing none blocks = blocks := by
  induction blocks with
  | nil => rfl
  | cons b bs ih => exact congrArg (b :: ·) ih

/-- The end of a text closes all block collections, and all tokens are certain then. -/
theorem Nears.fetch_end {s : Scan} {ks : List Kind} {x : Context} {m : Mark} (h : s.Nears ks x m []) :
    ∃ t, s.fetch.bind Scan.release = some t ∧ t.done = true ∧
      t.certain.reverse.map (·.kind) = ks ++ x.blocks.map (fun _ => .blockEnd) ++ [.streamEnd] := by
  obtain ⟨hdone, hle, t, happroach, ht⟩ := h
  let n := t.mark.toLineStart
  let u : Scan := { t with
    blocks := []
    queue := t.queue ++ t.blocks.map (fun _ => ⟨.blockEnd, n, n⟩) ++ [⟨.streamEnd, n, n⟩]
    keyAllowed := false
    done := true }
  have hfetch : s.fetch = some u := by
    rw [fetch_eq, happroach, Option.bind_some, ht.rest]
    simp [u, n, atEnd, closeBlocks, inFlow, ht.keys, closing_none, dropKey, push]
  have hrelease : u.release = some { u with certain := u.queue.reverse ++ u.certain, queue := [] } := by
    have hkeys : u.keys = [none] := ht.keys
    rw [Scan.release, dropStale_eq hkeys (by simp)]
    simp only [Option.any_none, Bool.false_eq_true, if_false, Option.map_some, releaseFrom_none, hkeys]
  refine ⟨_, by rw [hfetch, Option.bind_some, hrelease], rfl, ?_⟩
  rw [← ht.kinds, ← ht.blocks]
  simp only [u, Scan.kinds, List.reverse_append, List.reverse_reverse, List.map_append, List.map_map,
    List.append_assoc]
  rfl

end Token.Scan

open Token Scan in
/-- A text `t` that is read as one piece has its tokens `ks`, the ends of the open blocks and the end of the text.
-/
theorem TokenStream.kinds_ofText {t : String} (hprint : Printed t.toList) (htoken : AtToken t.toList)
    {ks : List Kind} {y : Context} (h : Reads [] .start t.toList ⟨[], true⟩ ks y) :
    (TokenStream.ofText t).tokens.map (·.kind) = ks ++ y.blocks.map (fun _ => .blockEnd) ++ [.streamEnd] := by
  have hallowed : t.toList.all isAllowed = true :=
    List.all_eq_true.2 fun c hc => isAllowed_of_isPrintable (hprint c hc)
  let s : Scan :=
    { rest := marked .start t.toList, stop := Mark.through .start t.toList, certain := [], queue := [], blocks := []
      keys := [none], keyAllowed := true, done := false }
  have hpassed : s.Passed [] ⟨[], true⟩ .start [] t.toList :=
    ⟨rfl, rfl, rfl, rfl, ⟨none, rfl, by simp⟩, rfl, rfl⟩
  obtain ⟨s', hrelease, -, hs⟩ := hpassed.release (List.forall_mem_nil _) htoken
  have hself : s' = s := (Option.some.inj hrelease).symm
  rw [hself] at hs
  -- fuel for every character and two more steps: the end of the text, and to find that it is done
  obtain ⟨u, hsu, hu⟩ := h s [] (by rw [List.append_nil]; exact hs)
  obtain ⟨v, hv, hdone, hkinds⟩ := hu.fetch_end
  obtain ⟨k, hk, hrun⟩ := hsu.run_eq 2
  obtain ⟨j, rfl⟩ : ∃ j, k = j + 2 := ⟨k - 2, by omega⟩
  have hend : run (u.rest.length + (j + 2)) u = (v, true) := by
    rw [← Nat.add_assoc, run, hu.1, hv]
    show run (u.rest.length + j + 1) v = (v, true)
    rw [run, hdone]
    rfl
  rw [TokenStream.ofText, if_pos hallowed, Source.ofText, annotate_eq hprint]
  show (run ((marked .start t.toList).length + 2) s).1.certain.reverse.map (·.kind) = _
  rw [show (marked .start t.toList).length = s.rest.length from rfl, hrun, hend, hkinds]
  simp

end DatasetLint.Yaml
