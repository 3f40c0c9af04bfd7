import DatasetLint.Proofs.Yaml.Pieces

/-!
# Keys and empty collections

What may turn out to be a key holds back its tokens until it is known. The scalar of a key is one when its
colon comes; an empty collection is given up as a key at the end of its line.
-/

namespace DatasetLint.Yaml

open Writer

namespace Token.Scan

/-! ## Keys -/

section Keys

variable {next : List Char} {m : Mark} {bs : List Nat}

private theorem releaseFrom_key {k : PossibleKey} {certain queue : List Token} (t : Token)
    (hk : k.number = certain.length + queue.length) :
    releaseFrom [some k] certain (queue ++ [t]) = (queue.reverse ++ certain, [t]) := by
  induction queue generalizing certain with
  | nil =>
    rw [List.nil_append, releaseFrom]
    simp [hk]
  | cons u q ih =>
    rw [List.length_cons] at hk
    have hne : (k.number == certain.length) = false := by
      rw [beq_eq_false_iff_ne]
      omega
    rw [List.cons_append, releaseFrom]
    simp only [List.any_cons, List.any_nil, Option.any_some, hne, Bool.or_false, Bool.false_eq_true, if_false]
    rw [ih (by rw [List.length_cons]; omega), List.reverse_cons, List.append_assoc, List.singleton_append]

/-- The scalar that may be the key `k` waits; what is queued before it is certain. -/
theorem release_key {s : Scan} {k : PossibleKey} {queue : List Token} {t : Token} (hkeys : s.keys = [some k])
    (hfresh : PossibleKey.isStale s.mark k = false) (hqueue : s.queue = queue ++ [t])
    (hk : k.number = s.certain.length + queue.length) :
    s.release = some { s with certain := queue.reverse ++ s.certain, queue := [t] } := by
  have hdrop : s.dropStale = some s := dropStale_of_fresh fun k' hk' l hl => by
    rw [hkeys, List.mem_singleton] at hk'
    rw [hk'] at hl
    cases hl
    exact hfresh
  rw [Scan.release, hdrop, Option.map_some]
  simp only [hkeys, hqueue, releaseFrom_key t hk]

/-- The scan `s` behind a scalar that is a key if a colon follows. -/
structure Awaits (s : Scan) (ks : List Kind) (k : Kind) (bs : List Nat) (m m' : Mark)
    (text : List Char) : Prop where
  rest : s.rest = marked m' text
  stop : s.stop = m'.through text
  certain : s.certain.reverse.map (·.kind) = ks
  queue : ∃ t, s.queue = [t] ∧ t.kind = k
  blocks : s.blocks = bs
  keys : ∃ l, s.keys = [some l] ∧ l.mark = m ∧ l.number = s.certain.length
  approach : s.approach = some s
  keyAllowed : s.keyAllowed = false
  done : s.done = false

/-- A colon behind it makes it a key, and opens a mapping if the key is deeper than the open collections `bs`. -/
theorem Awaits.value_eq {s : Scan} {ks : List Kind} {k : Kind} {m' : Mark} {text : List Char}
    (h : s.Awaits ks k bs m m' (':' :: text)) : ∃ t, s.value = some t ∧ t.rest = marked (m'.past ':') text ∧
      t.stop = s.stop ∧ t.kinds = ks ++ (opening .blockMappingStart m.column bs ++ [.key, k, .value]) ∧
      t.blocks = opened m.column bs ∧ t.keys = [none] ∧ t.keyAllowed = false ∧ t.done = false := by
  obtain ⟨t, hqueue, ht⟩ := h.queue
  obtain ⟨l, hkeys, hmark, hnumber⟩ := h.keys
  -- the token of the key comes before that of the scalar, and the start of a mapping before both
  let u : Scan := { s with queue := [⟨.key, m, m⟩, t] }
  have hflow : u.inFlow = false := by
    show decide (1 < s.keys.length) = false
    rw [hkeys]
    rfl
  have hopen := openBlock_eq hflow .blockMappingStart m.column (i := 0) hnumber m
  have hvalue : s.value = some { (u.openBlock .blockMappingStart m.column l.number m).indicator .value 1 with
      keys := [none], keyAllowed := false } := by
    simp only [value, hkeys, hqueue, hnumber, hmark, Nat.sub_self, List.insertIdx_zero, u]
  rw [hopen] at hvalue
  refine ⟨_, hvalue, ?_, rfl, ?_, ?_, rfl, rfl, h.done⟩
  · show s.rest.drop 1 = _
    rw [h.rest]
    rfl
  · have hcertain : s.certain.reverse.map (·.kind) = ks := h.certain
    rw [← hcertain, ← h.blocks, opening]
    split <;> simp [Scan.kinds, indicator, push, u, ht]
  · show opened m.column s.blocks = _
    rw [h.blocks]

/-- No document marker is written as a plain key. -/
theorem atDocumentMarker_key {c : Char} {v : List Char} (h : hasIndicator (c :: v) = false) (m : Mark)
    (tail : List Char) : Chars.atDocumentMarker (marked m (c :: v ++ ':' :: tail)) = false := by
  rw [Bool.eq_false_iff]
  intro hmarker
  obtain ⟨d, ds, hd, heq⟩ := Chars.exists_of_atDocumentMarker hmarker
  rw [map_marked] at heq
  rcases v with - | ⟨a, - | ⟨b, v⟩⟩
  · cases heq
    exact absurd hd (by decide)
  · cases heq
    exact absurd hd (by decide)
  · cases heq
    rcases hd with rfl | rfl
    · simp [hasIndicator] at h
    · simp [hasIndicator] at h

/-- The scalar `cs` of a key ends at its colon. -/
theorem token_key {s s' : Scan} {ls : List Kind} {cs tail : List Char} {style : Style} {i : Nat} (hi : 0 < i)
    (h : Admits true cs style) {c : Char} {v : List Char} (hv : scalarText i style cs = c :: v)
    (htail : tail.head?.all (fun c => isGap c || isBreak c)) (hbs : bs.head?.all (· ≤ m.column))
    (hs : s.Faces ls ⟨bs, true⟩ m (c :: v ++ ':' :: tail)) (hsave : s.saveKey = some s')
    (hmark : s'.mark = s.mark) : ∃ stop, s.token c (marked (m.past c) (v ++ ':' :: tail)) =
      some (s'.take (.scalar (String.ofList cs) style) stop (marked (m.through (c :: v)) (':' :: tail)) false) := by
  cases hstyle : h with
  | plain hne hplain =>
    have hcs : cs = c :: v := hv
    subst hcs
    have hindicator := (plainAllowed_iff.1 hplain).2.2.2.2
    exact token_plainAllowed hs hsave hmark hplain hbs (fun _ => atDocumentMarker_key hindicator m tail)
      fun stop last => plainRest_colon rfl htail last _
  | singleQuoted => exact token_quoted hi h (.inl rfl) (by simp) hv hs hsave
  | doubleQuoted => exact token_quoted hi h (.inr rfl) (by simp) hv hs hsave
  | literal hkey => cases hkey

/-- No block ends on a line that began in all of them. -/
theorem closeBlocks_of_le {s : Scan} (hflow : s.inFlow = false) {n : Nat} (h : s.blocks.head?.all (· ≤ n))
    (m : Mark) : s.closeBlocks (some n) m = s := by
  have htake : s.blocks.takeWhile (n < ·) = [] := by
    cases hb : s.blocks with
    | nil => rfl
    | cons b bs =>
      rw [hb] at h
      have hle : b ≤ n := by simpa using h
      exact List.takeWhile_cons_of_neg (by simpa using hle)
  have hleft : left n s.blocks = s.blocks := by
    have := List.takeWhile_append_dropWhile (p := (n < ·)) (l := s.blocks)
    rwa [htake, List.nil_append] at this
  rw [closeBlocks_eq hflow, htake, hleft]
  simp

/-- Behind a scalar `w` that may be a key the scan `Awaits` a colon. -/
theorem Faces.awaits {s : Scan} {ls : List Kind} {w text : List Char} (hs : s.Faces ls ⟨bs, true⟩ m (w ++ text))
    (hline : ∀ c ∈ w, isBreak c = false) (hsize : w.length ≤ keyLimit) (hbs : bs.head?.all (· ≤ m.column))
    (htext : AtToken text) : ∃ s', s.saveKey = some s' ∧ s'.mark = s.mark ∧ ∀ k stop, ∃ t,
      (s'.take k stop (marked (m.through w) text) false).release = some t ∧
        t.Awaits ls k bs m (m.through w) text := by
  obtain ⟨k', hsave, hsome, hk⟩ := hs.saveKey_eq
  obtain ⟨l, rfl⟩ := Option.isSome_iff_exists.1 hsome
  obtain ⟨-, hnumber, hmark⟩ := hk l rfl
  have hbehind := Mark.through_of_not_isBreak (m := m) hline
  have hfresh : PossibleKey.isStale (m.through w) l = false := by
    rw [hbehind]
    simp [PossibleKey.isStale, hmark]
    omega
  have hstop : s.stop = (m.through w).through text := by rw [hs.stop, Mark.through_append]
  refine ⟨_, hsave, rfl, fun k stop => ?_⟩
  let t : Scan := { s with
    rest := marked (m.through w) text
    certain := s.queue.reverse ++ s.certain
    queue := [⟨k, s.mark, stop⟩]
    keys := [some l]
    keyAllowed := false }
  have hhere : t.mark = m.through w := by
    show Chars.here s.stop _ = _
    rw [hstop, here_marked]
  -- the scan is still on the line of the key, where the key is not past and no collection ends
  refine ⟨t, ?_, ⟨rfl, hstop, ?_, ⟨_, rfl, rfl⟩, hs.blocks, ⟨l, rfl, hmark, ?_⟩, ?_, rfl, hs.done⟩⟩
  · refine release_key rfl ?_ rfl hnumber
    rw [← hhere] at hfresh
    exact hfresh
  · show (s.queue.reverse ++ s.certain).reverse.map (·.kind) = ls
    rw [← hs.kinds, List.reverse_append, List.reverse_reverse]
    rfl
  · show _ = (s.queue.reverse ++ s.certain).length
    rw [hnumber, List.length_append, List.length_reverse]
    omega
  · have hnextToken : t.toNextToken = t := toNextToken_self rfl htext
    have hdrop : t.dropStale = some t := dropStale_of_fresh fun k' hk' l' hl' => by
      rw [List.mem_singleton.1 hk'] at hl'
      cases hl'
      rw [hhere]
      exact hfresh
    have hle : t.blocks.head?.all (· ≤ t.mark.column) := by
      rw [hhere, hbehind, show t.blocks = bs from hs.blocks]
      cases bs with
      | nil => rfl
      | cons b bs =>
        simp only [List.head?_cons, Option.all_some, decide_eq_true_eq] at hbs ⊢
        omega
    rw [approach, hnextToken, hdrop, Option.map_some, closeBlocks_of_le rfl hle]

/-- The scalar `cs` of a key is read up to its colon. -/
theorem Nears.awaits {s : Scan} {ls : List Kind} {cs tail : List Char} {style : Style} {i : Nat}
    (hs : s.Nears ls ⟨bs, true⟩ m (scalarText i style cs ++ ':' :: tail)) (hi : 0 < i) (h : Admits true cs style)
    (hline : ∀ c ∈ cs, isBreak c = false) (hsize : (String.ofList cs).utf8ByteSize ≤ simpleKeyLimit)
    (hbs : bs.head?.all (· ≤ m.column)) (htail : tail.head?.all fun c => isGap c || isBreak c) :
    ∃ t, Reaches s t ∧
      t.Awaits ls (.scalar (String.ofList cs) style) bs m (m.through (scalarText i style cs)) (':' :: tail) := by
  have hbreak := not_isBreak_scalarText h hline i
  have hlength : (scalarText i style cs).length ≤ keyLimit := by
    have := length_scalarText_le h hline i
    simp only [simpleKeyLimit, keyLimit] at hsize ⊢
    omega
  obtain ⟨c, v, hv⟩ := List.exists_cons_of_ne_nil (scalarText_ne_nil h i)
  rw [hv] at hs hbreak hlength ⊢
  obtain ⟨hdone, hle, t, happroach, ht⟩ := hs
  obtain ⟨t', hsave, hmark, hawaits⟩ := ht.awaits hbreak hlength hbs (atToken_cons.2 (by decide))
  obtain ⟨stop, htoken⟩ := token_key hi h hv htail hbs ht hsave hmark
  obtain ⟨u, hrelease, hu⟩ := hawaits (.scalar (String.ofList cs) style) stop
  refine ⟨u, .token hdone happroach htoken ht.rest hrelease hle ?_, hu⟩
  rw [hu.rest, length_marked]
  exact (List.suffix_append v _).length_le

/-- The colon behind the scalar of a key, with the blanks `ws`. -/
theorem Awaits.nears {s : Scan} {ks : List Kind} {k : Kind} {m' : Mark} {ws : List Char}
    (h : s.Awaits ks k bs m m' (':' :: (ws ++ next))) (hws : ∀ c ∈ ws, isBlank c = true)
    (htail : (ws ++ next).head?.all fun c => isGap c || isBreak c) (hnext : AtToken next)
    (hbs : bs.head?.all (· ≤ m.column)) (hcolumn : m.column ≤ ((m'.past ':').through ws).column) : ∃ t, Reaches s t ∧
      t.Nears (ks ++ (opening .blockMappingStart m.column bs ++ [.key, k, .value]))
        ⟨opened m.column bs, ws.any isBreak⟩ ((m'.past ':').through ws) next := by
  have hblank : Chars.atBlank (marked (m'.past ':') (ws ++ next)) = true := by
    rw [atBlank_marked]
    exact htail
  have hmarker : s.rest.atDocumentMarker = false := by
    rw [h.rest]
    exact atDocumentMarker_cons (by decide) _ _
  obtain ⟨t, hvalue, hrest, hstop, hkinds, hblocks, hkeys, hallowed, hdone⟩ := h.value_eq
  have htoken : s.token ':' (marked (m'.past ':') (ws ++ next)) = some t := by
    rw [token_colon hmarker hblank, hvalue]
  have hpassed : t.Passed (ks ++ (opening .blockMappingStart m.column bs ++ [.key, k, .value]))
      ⟨opened m.column bs, false⟩ (m'.past ':') ws next := by
    refine ⟨hrest, ?_, hkinds, hblocks, ⟨none, hkeys, by simp⟩, hallowed, hdone⟩
    rw [hstop, h.stop, Mark.through_cons]
  obtain ⟨u, hrelease, hrest', hu⟩ := hpassed.release hws hnext
  obtain ⟨bs', hopened⟩ := exists_opened hbs
  rw [hopened] at hu ⊢
  rw [ends_cons_of_le hcolumn, left_cons_of_le hcolumn, List.append_nil, Bool.false_or] at hu
  refine ⟨u, .token h.done h.approach htoken h.rest hrelease ?_ ?_, hu⟩
  · exact Nat.le_of_eq (by rw [h.rest, length_marked])
  · exact Nat.le_of_eq (by rw [hrest', hrest, length_marked])

/-- A key on one line: its text `cs`, the colon and the blanks `ws` behind it. -/
theorem reads_key {cs ws : List Char} {style : Style} {i : Nat} (hi : 0 < i) (h : Admits true cs style)
    (hline : ∀ c ∈ cs, isBreak c = false) (hsize : (String.ofList cs).utf8ByteSize ≤ simpleKeyLimit)
    (hbs : bs.head?.all (· ≤ m.column)) (hne : ws ≠ []) (hws : ∀ c ∈ ws, isBlank c = true) (hnext : AtToken next)
    (hcolumn : m.column ≤ (m.through (scalarText i style cs ++ ':' :: ws)).column) :
    Reads next m (scalarText i style cs ++ ':' :: ws) ⟨bs, true⟩
      (opening .blockMappingStart m.column bs ++ [.key, .scalar (String.ofList cs) style, .value])
      ⟨opened m.column bs, ws.any isBreak⟩ := by
  have htail : (ws ++ next).head?.all fun c => isGap c || isBreak c := by
    obtain ⟨d, ws, rfl⟩ := List.exists_cons_of_ne_nil hne
    have hd := hws d (List.mem_cons_self ..)
    simp only [isBlank, Bool.or_eq_true, beq_iff_eq] at hd
    rcases hd with rfl | hd
    · rfl
    · simp [hd]
  intro s ls hs
  rw [List.append_assoc] at hs
  rw [Mark.through_append, Mark.through_cons] at hcolumn ⊢
  obtain ⟨t, hst, ht⟩ := hs.awaits hi h hline hsize hbs htail
  obtain ⟨u, htu, hu⟩ := ht.nears hws htail hnext hbs hcolumn
  exact ⟨u, hst.trans htu, hu⟩

end Keys

/-! ## Empty collections -/

section Empty

variable {next : List Char} {m : Mark} {bs : List Nat} {n : Nat} {allowed : Bool}

/-- The scan `s` inside the brackets of an empty collection, which as a whole may be the key `l`. -/
structure Within (s : Scan) (ks : List Kind) (l : Option PossibleKey) (bs : List Nat) (m : Mark)
    (text : List Char) : Prop where
  rest : s.rest = marked m text
  stop : s.stop = m.through text
  kinds : s.kinds = ks
  blocks : s.blocks = bs
  keys : s.keys = [none, l]
  approach : s.approach = some s
  done : s.done = false

/-- An opening bracket `c`, right behind which a token follows. -/
theorem Nears.within {s : Scan} {ls : List Kind} {c : Char} {k : Kind} {text : List Char}
    (hs : s.Nears ls ⟨bs, allowed⟩ m (c :: text))
    (hopen : ∀ (s : Scan) (r : Chars), s.rest.atDocumentMarker = false → s.token c r = s.openFlow k)
    (hc : isBreak c = false ∧ c ≠ '-' ∧ c ≠ '.') (htext : AtToken text) : ∃ t l, Reaches s t ∧
      t.Within (ls ++ [k]) l bs (m.past c) text ∧ l.isSome = allowed ∧
      ∀ k' ∈ l, k'.required = (bs.head? == some m.column) ∧ k'.mark = m := by
  obtain ⟨hdone, hle, t, happroach, ht⟩ := hs
  obtain ⟨l, hsave, hsome, hl⟩ := ht.saveKey_eq
  let u : Scan := { ({ t with keys := [l] } : Scan).indicator k 1 with keys := [none, l], keyAllowed := true }
  have hmarker : t.rest.atDocumentMarker = false := by
    rw [ht.rest]
    exact atDocumentMarker_cons hc.2 _ _
  have htoken : t.token c (marked (m.past c) text) = some u := by
    rw [hopen t _ hmarker, openFlow, hsave]
    rfl
  have hrest : u.rest = marked (m.past c) text := by
    show t.rest.drop 1 = _
    rw [ht.rest]
    rfl
  have hstop : u.stop = (m.past c).through text := ht.stop
  have hmark : u.mark = m.past c := by
    rw [Scan.mark, hstop, hrest, here_marked]
  -- the closing bracket comes right behind, so the collection may still be a key then
  have hfresh : ∀ k ∈ u.keys, ∀ k' ∈ k, PossibleKey.isStale u.mark k' = false := by
    intro k hk k' hk'
    rcases List.mem_cons.1 hk with rfl | hk
    · cases hk'
    · rw [List.mem_singleton.1 hk] at hk'
      rw [PossibleKey.isStale, (hl k' hk').2.2, hmark, Mark.past_of_not_isBreak hc.1]
      simp [Mark.next, keyLimit]
  let v : Scan := { u with
    certain := (releaseFrom u.keys u.certain u.queue).1, queue := (releaseFrom u.keys u.certain u.queue).2 }
  have hrelease : u.release = some v := by
    simp only [Scan.release, dropStale_of_fresh hfresh, Option.map_some, v]
  have hv : v.approach = some v := by
    have hnextToken : v.toNextToken = v := toNextToken_self hrest htext
    have hdrop : v.dropStale = some v := dropStale_of_fresh hfresh
    rw [Scan.approach, hnextToken, hdrop, Option.map_some, closeBlocks]
    rfl
  refine ⟨v, l, .token hdone happroach htoken ht.rest hrelease hle ?_,
    ⟨hrest, hstop, ?_, ht.blocks, rfl, hv, ht.done⟩, hsome, fun k' hk' => ⟨(hl k' hk').1, (hl k' hk').2.2⟩⟩
  · exact Nat.le_of_eq (by rw [show v.rest = u.rest from rfl, hrest, length_marked])
  · show (v.certain.reverse ++ v.queue).map Token.kind = _
    rw [show v.certain.reverse ++ v.queue = u.certain.reverse ++ u.queue from releaseFrom_append _ _ _, ← ht.kinds]
    simp [Scan.kinds, u, indicator, push]

/-- A closing bracket `d`, behind which a line ends. -/
theorem Within.nears {s : Scan} {ks : List Kind} {l : Option PossibleKey} {d : Char} {k : Kind} {ws : List Char}
    (h : s.Within ks l bs m (d :: (ws ++ next)))
    (hclose : ∀ (s : Scan) (r : Chars), s.rest.atDocumentMarker = false → s.token d r = s.closeFlow k)
    (hd : d ≠ '-' ∧ d ≠ '.')
    (hl : ∀ k' ∈ l, k'.required = false ∧ k'.mark.line < ((m.past d).through ws).line)
    (hws : ∀ c ∈ ws, isBlank c = true) (hnext : AtToken next) : ∃ t, Reaches s t ∧
      t.Nears (ks ++ [k] ++ ends ((m.past d).through ws).column bs)
        ⟨left ((m.past d).through ws).column bs, ws.any isBreak⟩ ((m.past d).through ws) next := by
  let t : Scan := { s.indicator k 1 with keys := [l], keyAllowed := false }
  have hmarker : s.rest.atDocumentMarker = false := by
    rw [h.rest]
    exact atDocumentMarker_cons hd _ _
  have htoken : s.token d (marked (m.past d) (ws ++ next)) = some t := by
    have hdrop : s.dropKey = some s := by
      simp only [dropKey, h.keys, Option.any_none, Bool.false_eq_true, if_false]
      rw [← h.keys]
    have hflow : s.inFlow = true := by
      rw [inFlow, h.keys]
      rfl
    simp only [hclose s _ hmarker, closeFlow, hdrop, Option.map_some, hflow, if_true, h.keys]
    rfl
  have hpassed : t.Passed (ks ++ [k]) ⟨bs, false⟩ (m.past d) ws next := by
    refine ⟨?_, h.stop, ?_, h.blocks, ⟨l, rfl, hl⟩, rfl, h.done⟩
    · show s.rest.drop 1 = _
      rw [h.rest]
      rfl
    · rw [← h.kinds]
      simp [Scan.kinds, t, indicator, push]
  obtain ⟨u, hrelease, hrest, hu⟩ := hpassed.release hws hnext
  refine ⟨u, .token h.done h.approach htoken h.rest hrelease ?_ ?_, hu⟩
  · exact Nat.le_of_eq (by rw [h.rest, length_marked])
  · exact Nat.le_of_eq (by rw [hrest, hpassed.rest, length_marked])

/-- The pair of brackets `c` and `d` with the line end behind it. -/
theorem reads_brackets {c d : Char} {k k' : Kind}
    (hopen : ∀ (s : Scan) (r : Chars), s.rest.atDocumentMarker = false → s.token c r = s.openFlow k)
    (hclose : ∀ (s : Scan) (r : Chars), s.rest.atDocumentMarker = false → s.token d r = s.closeFlow k')
    (hc : isBreak c = false ∧ c ≠ '-' ∧ c ≠ '.') (hd : AtToken [d] ∧ d ≠ '-' ∧ d ≠ '.') (hnext : AtToken next)
    (hkey : allowed = true → bs.head? ≠ some m.column) : Reads next m (c :: d :: '\n' :: spaces n) ⟨bs, allowed⟩
      ([k, k'] ++ ends n bs) ⟨left n bs, true⟩ := by
  intro s ls hs
  have htext : AtToken (d :: ('\n' :: spaces n ++ next)) := atToken_cons.2 (atToken_cons.1 hd.1)
  obtain ⟨t, l, hst, ht, hsome, hl⟩ := hs.within hopen hc htext
  have hstale : ∀ k' ∈ l, k'.required = false ∧
      k'.mark.line < (((m.past c).past d).through ('\n' :: spaces n)).line := by
    intro l' hl'
    obtain ⟨hrequired, hmark⟩ := hl l' hl'
    have hallowed : allowed = true := hsome.symm.trans (Option.isSome_of_mem hl')
    rw [hrequired, hmark]
    exact ⟨beq_eq_false_iff_ne.2 (hkey hallowed), line_lt_lineEnd m [c, d] n⟩
  obtain ⟨u, htu, hu⟩ := ht.nears hclose hd.2 hstale
    (List.forall_mem_cons.2 ⟨rfl, fun c hc => isBlank_of_mem_spaces hc⟩) hnext
  have hcolumn : ((((m.past c).past d).through ('\n' :: spaces n))).column = n := column_lineEnd m [c, d] n
  rw [hcolumn, List.append_assoc ls [k], List.append_assoc ls] at hu
  exact ⟨u, hst.trans htu, hu⟩

theorem reads_emptySequence (hnext : AtToken next) (hkey : allowed = true → bs.head? ≠ some m.column) :
    Reads next m ('[' :: ']' :: '\n' :: spaces n) ⟨bs, allowed⟩
      ([.flowSequenceStart, .flowSequenceEnd] ++ ends n bs) ⟨left n bs, true⟩ :=
  reads_brackets (fun s r h => by simp [token, h]) (fun s r h => by simp [token, h])
    (by decide) ⟨atToken_cons.2 (by decide), by decide⟩ hnext hkey

theorem reads_emptyMapping (hnext : AtToken next) (hkey : allowed = true → bs.head? ≠ some m.column) :
    Reads next m ('\x7b' :: '\x7d' :: '\n' :: spaces n) ⟨bs, allowed⟩
      ([.flowMappingStart, .flowMappingEnd] ++ ends n bs) ⟨left n bs, true⟩ :=
  reads_brackets (fun s r h => by simp [token, h]) (fun s r h => by simp [token, h])
    (by decide) ⟨atToken_cons.2 (by decide), by decide⟩ hnext hkey

end Empty

end Token.Scan

end DatasetLint.Yaml
