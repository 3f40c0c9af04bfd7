import DatasetLint.Proofs.Yaml.Keys

/-!
# How a value is laid out

A value of texts, sequences and mappings from texts is read where it is written: for every entry of a
collection the scan comes back to the column of the collection. So the text of a document has exactly the
tokens of its value.
-/

namespace DatasetLint.Yaml

/-- A value of texts: its sequences and mappings hold such values, and the keys of its mappings are texts. -/
inductive Textual : Value → Prop
  | text (t : String) : Textual (.scalar (.string t))
  | sequence {items : List Value} (h : ∀ v ∈ items, Textual v) : Textual (.sequence items)
  | mapping {entries : List (Value × Value)} (hkey : ∀ e ∈ entries, ∃ t, e.1 = .scalar (.string t))
    (h : ∀ e ∈ entries, Textual e.2) : Textual (.mapping entries)

namespace Writer

open Token Scan

/-! ## Tokens of values -/

mutual

/-- The kinds of the tokens of a value without tags. `indentless` tells that the items of a sequence are no
deeper than the mapping around it. -/
def valueKinds (asKey indentless : Bool) : Value → List Kind
  | .scalar (.string t) => [.scalar t (chosen asKey (wanted t) t.toList)]
  | .scalar s => [.scalar s.text .plain]
  | .sequence items =>
    if items.isEmpty then [.flowSequenceStart, .flowSequenceEnd]
    else if indentless then itemKinds items
    else .blockSequenceStart :: itemKinds items ++ [.blockEnd]
  | .mapping entries =>
    if entries.isEmpty then [.flowMappingStart, .flowMappingEnd]
    else .blockMappingStart :: entryKinds entries ++ [.blockEnd]
  | .tagged _ v => valueKinds asKey indentless v

/-- The kinds of the tokens of the items of a sequence. -/
def itemKinds : List Value → List Kind
  | [] => []
  | v :: vs => .blockEntry :: valueKinds false false v ++ itemKinds vs

/-- The kinds of the tokens of the entries of a mapping. -/
def entryKinds : List (Value × Value) → List Kind
  | [] => []
  | (k, v) :: es =>
    .key :: valueKinds (isSimpleKey k) false k ++ (.value :: valueKinds false (isSimpleKey k) v) ++ entryKinds es

end

/-! ## Where values stand -/

/-- What separates a value at the position `p` from what comes before it. -/
def leadAt (p : Position) : Value → List Char
  | .sequence (_ :: _) => before true
  | .mapping (_ :: _) => before false
  | _ => p.gap
where
  /-- A space or a line end, and then the column of the collection. -/
  before (sequence : Bool) : List Char :=
    if (p.collection false sequence).2 then '\n' :: spaces (p.collection false sequence).1 else p.gap

/-- A value at the position `p` from its first token on. -/
def bodyAt (p : Position) : Value → List Char
  | .scalar s => scalarAt p false s
  | .sequence [] => ['[', ']']
  | .sequence items@(_ :: _) =>
    let column := (p.collection false true).1
    joinEntries column (itemsAt column items)
  | .mapping [] => ['\x7b', '\x7d']
  | .mapping entries@(_ :: _) =>
    let column := (p.collection false false).1
    joinEntries column (entriesAt column entries)
  | .tagged t v => '!' :: tagText t ++ valueAt p false true v

private theorem valueAt_eq (p : Position) (v : Value) : valueAt p false false v = leadAt p v ++ bodyAt p v := by
  rcases v with s | (- | ⟨v, vs⟩) | (- | ⟨e, es⟩) | ⟨t, v⟩ <;>
    simp [valueAt, leadAt, leadAt.before, bodyAt, placeEntries]

/-- The text `w` with the line end behind it. -/
def closed (w : List Char) : List Char := w ++ lineEnd w

private theorem closed_append {v w : List Char} (hne : w ≠ []) : closed (v ++ w) = v ++ closed w := by
  have hlast : (v ++ w).getLast? = w.getLast? := by
    rw [List.getLast?_append, List.getLast?_eq_some_getLast hne]
    rfl
  rw [closed, lineEnd, hlast, List.append_assoc]
  rfl

private theorem printed_closed {w : List Char} (h : Printed w) : Printed (closed w) := by
  refine printed_append.2 ⟨h, ?_⟩
  rw [lineEnd]
  split
  · exact printed_nil
  · exact printed_cons.2 ⟨rfl, printed_nil⟩

/-! ## Entries -/

/-- `e` is an entry of a block collection at `column`, with tokens of the kinds `ks`, however many of its kind come
before it. -/
structure IsEntry (block : Kind) (column : Nat) (e : List Char) (ks : List Kind) : Prop where
  ne_nil : e ≠ []
  atToken : AtToken e
  printed : Printed e
  reads : ∀ (bs : List Nat) {m : Mark} {n : Nat} {next : List Char}, m.column = column →
    bs.head?.all (· ≤ column) → n ≤ column → AtToken next →
    Reads next m (closed e ++ spaces n) ⟨bs, true⟩ (opening block column bs ++ ks ++ ends n (opened column bs))
      ⟨left n (opened column bs), true⟩

theorem atToken_append {e : List Char} (hne : e ≠ []) (h : AtToken e) (x : List Char) : AtToken (e ++ x) := by
  obtain ⟨c, v, rfl⟩ := List.exists_cons_of_ne_nil hne
  exact h

private theorem joinEntries_cons (column : Nat) (e : List Char) {es : List (List Char)} (hne : es ≠ []) :
    joinEntries column (e :: es) = closed e ++ spaces column ++ joinEntries column es := by
  obtain ⟨f, fs, rfl⟩ := List.exists_cons_of_ne_nil hne
  rfl

/-- The entries `es` on lines of their own are an entry again, of all their tokens. -/
theorem isEntry_joinEntries {block : Kind} {column : Nat} {es : List (List Char × List Kind)} (hne : es ≠ [])
    (h : ∀ e ∈ es, IsEntry block column e.1 e.2) :
    IsEntry block column (joinEntries column (es.map (·.1))) (es.flatMap (·.2)) := by
  induction es with
  | nil => exact absurd rfl hne
  | cons e es ih =>
    rw [List.forall_mem_cons] at h
    obtain ⟨he, hes⟩ := h
    by_cases hnil : es = []
    · subst hnil
      simpa [joinEntries] using he
    · have hrest := ih hnil hes
      rw [List.map_cons, joinEntries_cons column e.1 (by simpa using hnil), List.flatMap_cons]
      refine ⟨?_, ?_, ?_, ?_⟩
      · simp [hrest.ne_nil]
      · rw [closed, List.append_assoc, List.append_assoc]
        exact atToken_append he.ne_nil he.atToken _
      · exact printed_append.2 ⟨printed_append.2 ⟨printed_closed he.printed, printed_spaces _⟩, hrest.printed⟩
      · intro bs m n next hm hbs hn hnext
        have hmiddle : AtToken (closed (joinEntries column (es.map (·.1))) ++ spaces n ++ next) := by
          rw [closed, List.append_assoc, List.append_assoc]
          exact atToken_append hrest.ne_nil hrest.atToken _
        obtain ⟨bs', hopened⟩ := exists_opened hbs
        -- the first entry leaves the collection open at its column, so the others do not open it again
        have hfirst := he.reads bs hm hbs (Nat.le_refl column) hmiddle
        have hlast := hrest.reads (column :: bs') (m := m.through (closed e.1 ++ spaces column))
          (column_closed he.ne_nil he.printed m column) (by simp) hn hnext
        rw [hopened, ends_cons_of_le (Nat.le_refl column), left_cons_of_le (Nat.le_refl column), List.append_nil]
          at hfirst
        rw [opening_cons_self, opened_cons_self, List.nil_append] at hlast
        rw [hopened, closed_append hrest.ne_nil]
        simpa only [List.append_assoc] using hfirst.trans hlast

/-! ## Values inside collections -/

/-- Whether a position is that of an item or of the value of a key, in the collection at column `c`. -/
def Position.IsInside (p : Position) (c : Nat) : Prop :=
  p.outer = some c ∧ (p.lead = .indicator ∨ p.lead = .key ∧ p.inMapping = true)

/-- A value at the position `p` may begin at the mark `m`: collections begin at their column, where a key is
allowed. -/
def Begins (p : Position) (c : Nat) (m : Mark) (allowed : Bool) : Value → Prop
  | .sequence (_ :: _) => m.column = (p.collection false true).1 ∧ allowed = true
  | .mapping (_ :: _) => m.column = (p.collection false false).1 ∧ allowed = true
  | _ => c < m.column

/-- A value `v` that is read inside any collection. -/
structure Legible (v : Value) : Prop where
  ne_nil (p : Position) : bodyAt p v ≠ []
  atToken (p : Position) : AtToken (bodyAt p v)
  printed (p : Position) : Printed (bodyAt p v)
  reads : ∀ (bs : List Nat) {p : Position} {c : Nat} {m : Mark} {allowed : Bool} {n : Nat} {next : List Char},
    p.IsInside c → Begins p c m allowed v → n ≤ c → AtToken next →
    Reads next m (closed (bodyAt p v) ++ spaces n) ⟨c :: bs, allowed⟩
      (valueKinds false (p.lead = .key) v ++ ends n (c :: bs)) ⟨left n (c :: bs), true⟩

private theorem Legible.atToken_closed {v : Value} (h : Legible v) (p : Position) (x : List Char) :
    AtToken (closed (bodyAt p v) ++ x) := by
  rw [closed, List.append_assoc]
  exact atToken_append (h.ne_nil p) (h.atToken p) _

section Positions

variable (c : Nat) (v : Value)

private theorem leadAt_indicator (inMapping : Bool) : leadAt ⟨.indicator, some c, inMapping⟩ v = [' '] := by
  rcases v with s | (- | ⟨v, vs⟩) | (- | ⟨e, es⟩) | ⟨t, v⟩ <;>
    simp [leadAt, leadAt.before, Position.collection, Position.gap]

private theorem begins_indicator (inMapping : Bool) {m : Mark} (hm : m.column = c + 2) :
    Begins ⟨.indicator, some c, inMapping⟩ c m true v := by
  rcases v with s | (- | ⟨v, vs⟩) | (- | ⟨e, es⟩) | ⟨t, v⟩ <;>
    simp [Begins, Position.collection, indentStep, hm]

/-- Behind a key comes a space, or a line end and at least the column `c` of the mapping. -/
theorem leadAt_key : leadAt ⟨.key, some c, true⟩ v = [' '] ∨
    ∃ n, c ≤ n ∧ leadAt ⟨.key, some c, true⟩ v = '\n' :: spaces n := by
  rcases v with s | (- | ⟨v, vs⟩) | (- | ⟨e, es⟩) | ⟨t, v⟩ <;>
    simp [leadAt, leadAt.before, Position.collection, Position.gap, indentStep]
  · exact ⟨c, Nat.le_refl c, rfl⟩
  · exact ⟨c + 2, Nat.le_add_right c 2, rfl⟩

private theorem begins_key {m : Mark} (hm : c < m.column) : Begins ⟨.key, some c, true⟩ c
    (m.through (leadAt ⟨.key, some c, true⟩ v)) ((leadAt ⟨.key, some c, true⟩ v).any isBreak) v := by
  have hspace : (m.past ' ').column = m.column + 1 := rfl
  have hline : ∀ n, ((m.past '\n').through (spaces n)).column = n := column_lineEnd m []
  rcases v with s | (- | ⟨v, vs⟩) | (- | ⟨e, es⟩) | ⟨t, v⟩ <;>
    simp [Begins, leadAt, leadAt.before, Position.collection, Position.gap, indentStep, hspace, hline, isBreak] <;>
    omega

/-- Either keeps the column inside the mapping at `c`. -/
theorem leadAt_key_facts : (∀ d ∈ leadAt ⟨.key, some c, true⟩ v, isBlank d = true) ∧
    leadAt ⟨.key, some c, true⟩ v ≠ [] ∧
    ∀ {m : Mark}, c < m.column → c ≤ (m.through (leadAt ⟨.key, some c, true⟩ v)).column := by
  rcases leadAt_key c v with h | ⟨n, hn, h⟩ <;> rw [h]
  · refine ⟨by simp [isBlank], by simp, fun hm => ?_⟩
    exact Nat.le_of_lt (Nat.lt_succ_of_lt hm)
  · refine ⟨List.forall_mem_cons.2 ⟨rfl, fun d hd => isBlank_of_mem_spaces hd⟩, by simp, fun {m} _ => ?_⟩
    have hcolumn := column_lineEnd m [] n
    rw [List.nil_append] at hcolumn
    rwa [hcolumn]

end Positions

/-! ## Entries of sequences and mappings -/

/-- An item `v` of a sequence. -/
theorem isEntry_item {v : Value} (h : Legible v) (c : Nat) : IsEntry .blockSequenceStart c
    ('-' :: valueAt ⟨.indicator, some c, false⟩ false false v) (.blockEntry :: valueKinds false false v) := by
  let p : Position := ⟨.indicator, some c, false⟩
  have htext : '-' :: valueAt p false false v = ['-', ' '] ++ bodyAt p v := by
    rw [valueAt_eq, leadAt_indicator]
    rfl
  rw [htext]
  refine ⟨by simp, atToken_cons.2 (by decide), ?_, ?_⟩
  · exact printed_append.2 ⟨by simp [isPrintable], h.printed p⟩
  · intro bs m n next hm hbs hn hnext
    subst hm
    obtain ⟨bs', hopened⟩ := exists_opened hbs
    have hdash := reads_dash (h.atToken_closed p (spaces n ++ next)) hbs
    have hvalue := h.reads bs' (p := p) (m := m.through ['-', ' ']) ⟨rfl, .inl rfl⟩
      (begins_indicator _ v _ rfl) hn hnext
    rw [hopened] at hdash
    rw [closed_append (h.ne_nil p), hopened, List.append_assoc]
    rw [← List.append_assoc] at hdash
    have := hdash.trans hvalue
    simpa [p] using this

theorem atToken_scalarText {asKey : Bool} {cs : List Char} {style : Style} (h : Admits asKey cs style) (i : Nat) :
    AtToken (scalarText i style cs) := by
  cases h with
  | plain hne h =>
    obtain ⟨hborder, hprint, hline, -, hindicator⟩ := plainAllowed_iff.1 h
    obtain ⟨c, v, rfl⟩ := List.exists_cons_of_ne_nil hne
    have hc := (printed_cons.1 hprint).1
    refine atToken_cons.2 ⟨?_, hline c (List.mem_cons_self ..), ?_, ?_⟩
    · simp only [bordered, List.head?_cons, Option.any_some, Bool.or_eq_false_iff] at hborder
      rw [isGap_eq_of_isPrintable hc]
      exact hborder.1.1
    · rintro rfl
      exact absurd (hasIndicator_cons hindicator).1 (by decide)
    · rintro rfl
      exact absurd hc (by decide)
  | _ => simp [scalarText, AtToken, isGap, isBreak, isSeparator]

/-- An entry of a mapping: a short key `k` with its value `v`, or both behind an indicator. -/
def entryAt (column : Nat) (k v : Value) : List Char :=
  if isSimpleKey k then
    valueAt ⟨.start, some column, true⟩ true false k ++ ':' :: valueAt ⟨.key, some column, true⟩ false false v
  else
    closed ('?' :: valueAt ⟨.indicator, some column, true⟩ false false k) ++ spaces column ++
      ':' :: valueAt ⟨.indicator, some column, true⟩ false false v

/-- The kinds of its tokens. -/
def entryKind (k v : Value) : List Kind :=
  .key :: valueKinds (isSimpleKey k) false k ++ .value :: valueKinds false (isSimpleKey k) v

private theorem printed_of_isBlank {cs : List Char} (h : ∀ c ∈ cs, isBlank c = true) : Printed cs := by
  intro c hc
  have := h c hc
  simp only [isBlank, isBreak, isSeparator, Bool.or_eq_true, beq_iff_eq] at this
  rcases this with rfl | rfl | rfl | rfl <;> rfl

/-- A text `t` that is written on a key's line has one line and is short. -/
theorem isSimpleKey_imp {t : String} (h : isSimpleKey (.scalar (.string t)) = true) :
    (∀ c ∈ t.toList, isBreak c = false) ∧ t.utf8ByteSize ≤ simpleKeyLimit := by
  simp only [isSimpleKey, Bool.and_eq_true, Bool.not_eq_true', List.any_eq_false, decide_eq_true_eq] at h
  refine ⟨fun c hc => ?_, h.2⟩
  have := h.1 c hc
  simp only [endsLine, Bool.or_eq_true, not_or, Bool.not_eq_true] at this
  rw [isBreak, this.1.1.1, this.2]
  rfl

/-- An entry of a mapping whose key `t` is short. -/
theorem isEntry_simple {v : Value} (h : Legible v) (c : Nat) {t : String}
    (hsimple : isSimpleKey (.scalar (.string t)) = true) :
    IsEntry .blockMappingStart c (entryAt c (.scalar (.string t)) v) (entryKind (.scalar (.string t)) v) := by
  let p : Position := ⟨.key, some c, true⟩
  let style := chosen true (wanted t) t.toList
  have hadmits : Admits true t.toList style := admits_chosen true t
  have hprint := printed_scalarText hadmits (c + indentStep)
  obtain ⟨hline, hsize⟩ := isSimpleKey_imp hsimple
  rw [← String.ofList_toList (s := t)] at hsize
  obtain ⟨hblank, hlead, hcolumn⟩ := leadAt_key_facts c v
  have htext : entryAt c (.scalar (.string t)) v =
      scalarText (c + indentStep) style t.toList ++ ':' :: leadAt p v ++ bodyAt p v := by
    rw [entryAt, if_pos hsimple, valueAt_eq p]
    simp [valueAt, Position.gap, scalarAt, Position.scalar, style]
  rw [htext]
  refine ⟨?_, ?_, ?_, ?_⟩
  · simp
  · rw [List.append_assoc]
    exact atToken_append (scalarText_ne_nil hadmits _) (atToken_scalarText hadmits _) _
  · exact printed_append.2 ⟨printed_append.2 ⟨hprint, printed_cons.2 ⟨rfl, printed_of_isBlank hblank⟩⟩, h.printed p⟩
  · intro bs m n next hm hbs hn hnext
    subst hm
    let behind := m.through (scalarText (m.column + indentStep) style t.toList ++ [':'])
    have hbehind : m.column < behind.column := by
      have := not_isBreak_scalarText hadmits hline (m.column + indentStep)
      show m.column < (m.through (_ ++ [':'])).column
      rw [Mark.through_append, Mark.through_of_not_isBreak this]
      exact Nat.lt_succ_of_le (Nat.le_add_right _ _)
    have hmark : m.through (scalarText (m.column + indentStep) style t.toList ++ ':' :: leadAt p v) =
        behind.through (leadAt p v) := by
      show _ = (m.through (_ ++ [':'])).through _
      rw [← Mark.through_append, List.append_assoc]
      rfl
    -- the key with its colon and what leads to the value, then the value
    obtain ⟨bs', hopened⟩ := exists_opened hbs
    have hkey := reads_key (i := m.column + indentStep) (by simp [indentStep]) hadmits hline hsize hbs hlead hblank
      (h.atToken_closed p (spaces n ++ next)) (by rw [hmark]; exact hcolumn hbehind)
    have hvalue := h.reads bs' (p := p) ⟨rfl, .inr ⟨rfl, rfl⟩⟩ (begins_key _ v hbehind) hn hnext
    rw [hopened] at hkey
    rw [closed_append (h.ne_nil p), hopened, List.append_assoc]
    rw [← List.append_assoc] at hkey
    rw [← hmark] at hvalue
    have := hkey.trans hvalue
    simpa [p, entryKind, valueKinds, hsimple, style] using this

/-- An entry of a mapping whose key `k` stands behind a question mark. -/
theorem isEntry_explicit {k v : Value} (hk : Legible k) (hv : Legible v) (hsimple : isSimpleKey k = false)
    (c : Nat) : IsEntry .blockMappingStart c (entryAt c k v) (entryKind k v) := by
  let p : Position := ⟨.indicator, some c, true⟩
  have hclosed : closed ('?' :: ' ' :: bodyAt p k) = ['?', ' '] ++ closed (bodyAt p k) :=
    closed_append (v := ['?', ' ']) (hk.ne_nil p)
  have htext : entryAt c k v = ['?', ' '] ++ (closed (bodyAt p k) ++ spaces c) ++ ([':', ' '] ++ bodyAt p v) := by
    rw [entryAt, hsimple, if_neg Bool.false_ne_true, valueAt_eq p k, valueAt_eq p v, leadAt_indicator,
      leadAt_indicator, List.singleton_append, hclosed]
    simp
  rw [htext]
  refine ⟨by simp, atToken_cons.2 (by decide), ?_, ?_⟩
  · refine printed_append.2 ⟨printed_append.2 ⟨by simp [isPrintable], printed_append.2 ⟨?_, printed_spaces c⟩⟩, ?_⟩
    · exact printed_closed (hk.printed p)
    · exact printed_append.2 ⟨by simp [isPrintable], hv.printed p⟩
  · intro bs m n next hm hbs hn hnext
    subst hm
    obtain ⟨bs', hopened⟩ := exists_opened hbs
    let behind := m.through (['?', ' '] ++ (closed (bodyAt p k) ++ spaces m.column))
    have hcolumn : behind.column = m.column := by
      show (m.through (['?', ' '] ++ (closed (bodyAt p k) ++ spaces m.column))).column = m.column
      rw [Mark.through_append]
      exact column_closed (hk.ne_nil p) (hk.printed p) _ _
    -- four pieces, read from the last to the first: question mark, key, colon and value
    have hcolon : Reads _ behind [':', ' '] ⟨behind.column :: bs', true⟩ _ _ :=
      reads_colon (hv.atToken_closed p (spaces n ++ next))
    have hvalue := hv.reads bs' (p := p) (m := behind.through [':', ' ']) ⟨rfl, .inl rfl⟩
      (begins_indicator _ v _ (by rw [← hcolumn]; rfl)) hn hnext
    rw [hcolumn, ← List.append_assoc] at hcolon
    have hlast := hcolon.trans hvalue
    have hkey := hk.reads bs' (p := p) (m := m.through ['?', ' ']) ⟨rfl, .inl rfl⟩
      (begins_indicator _ k _ rfl) (Nat.le_refl _)
      (show AtToken ([':', ' '] ++ (closed (bodyAt p v) ++ spaces n) ++ next) by
        simp [AtToken, isGap, isBreak, isSeparator])
    have hquestion := reads_question (hk.atToken_closed p (spaces m.column ++
      ([':', ' '] ++ (closed (bodyAt p v) ++ spaces n) ++ next))) hbs
    rw [hopened, ← List.append_assoc] at hquestion
    rw [ends_cons_of_le (Nat.le_refl _), left_cons_of_le (Nat.le_refl _), List.append_nil] at hkey
    have hfirst := hquestion.trans hkey
    rw [closed_append (by simp), closed_append (hv.ne_nil p), hopened, List.append_assoc]
    have := hfirst.trans hlast
    simpa [p, entryKind, hsimple] using this

/-! ## Values of texts -/

private theorem legible_text (t : String) : Legible (.scalar (.string t)) where
  ne_nil p := scalarText_ne_nil (admits_chosen false t) p.scalar
  atToken p := atToken_scalarText (admits_chosen false t) p.scalar
  printed p := printed_scalarText (admits_chosen false t) p.scalar
  reads := by
    intro bs p c m allowed n next hp hm hn hnext
    have hbody : bodyAt p (.scalar (.string t)) =
        scalarText (c + 2) (chosen false (wanted t) t.toList) t.toList := by
      simp [bodyAt, scalarAt, Position.scalar, hp.1, indentStep]
    have h : Reads next m _ ⟨c :: bs, allowed⟩ _ _ := reads_scalar hm hn hnext (admits_chosen false t)
    rw [hbody, closed]
    simpa [valueKinds] using h

private theorem legible_brackets {v : Value} {c d : Char} {k k' : Kind} (hbody : ∀ p, bodyAt p v = [c, d])
    (hkinds : ∀ indentless, valueKinds false indentless v = [k, k']) (hc : AtToken [c]) (hprint : Printed [c, d])
    (hline : endsLine d = false) (hbegins : ∀ p c m allowed, Begins p c m allowed v → c < m.column)
    (h : ∀ {next m bs n allowed}, AtToken next → (allowed = true → bs.head? ≠ some m.column) →
      Reads next m (c :: d :: '\n' :: spaces n) ⟨bs, allowed⟩ ([k, k'] ++ ends n bs) ⟨left n bs, true⟩) :
    Legible v where
  ne_nil p := by simp [hbody]
  atToken p := by
    rw [hbody]
    exact hc
  printed p := by rwa [hbody]
  reads := by
    intro bs p c' m allowed n next hp hm hn hnext
    have hclosed : closed [c, d] = [c, d, '\n'] := by simp [closed, lineEnd, hline]
    rw [hbody, hkinds, hclosed]
    refine h hnext fun _ => ?_
    have := hbegins p c' m allowed hm
    simp only [List.head?_cons, ne_eq, Option.some.injEq]
    omega

private theorem legible_emptySequence : Legible (.sequence []) := by
  have hbody : ∀ p, bodyAt p (.sequence []) = ['[', ']'] := fun _ => rfl
  have hkinds : ∀ b, valueKinds false b (.sequence []) = [.flowSequenceStart, .flowSequenceEnd] := fun _ => rfl
  exact legible_brackets hbody hkinds (atToken_cons.2 (by decide)) (by simp [isPrintable]) rfl
    (fun _ _ _ _ h => h) fun hnext hkey => reads_emptySequence hnext hkey

private theorem legible_emptyMapping : Legible (.mapping []) := by
  have hbody : ∀ p, bodyAt p (.mapping []) = ['\x7b', '\x7d'] := fun _ => rfl
  have hkinds : ∀ b, valueKinds false b (.mapping []) = [.flowMappingStart, .flowMappingEnd] := fun _ => rfl
  exact legible_brackets hbody hkinds (atToken_cons.2 (by decide)) (by simp [isPrintable]) rfl
    (fun _ _ _ _ h => h) fun hnext hkey => reads_emptyMapping hnext hkey

private theorem itemsAt_eq_map (c : Nat) (vs : List Value) :
    itemsAt c vs = vs.map fun v => '-' :: valueAt ⟨.indicator, some c, false⟩ false false v := by
  induction vs with
  | nil => rw [itemsAt, List.map_nil]
  | cons v vs ih => rw [itemsAt, ih, List.map_cons]

private theorem itemKinds_eq_flatMap (vs : List Value) :
    itemKinds vs = vs.flatMap fun v => .blockEntry :: valueKinds false false v := by
  induction vs with
  | nil => rfl
  | cons v vs ih => rw [itemKinds, ih, List.flatMap_cons]

private theorem entriesAt_eq_map (c : Nat) (es : List (Value × Value)) :
    entriesAt c es = es.map fun e => entryAt c e.1 e.2 := by
  induction es with
  | nil => rw [entriesAt, List.map_nil]
  | cons e es ih =>
    rw [entriesAt, ih, List.map_cons]
    rfl

private theorem entryKinds_eq_flatMap (es : List (Value × Value)) :
    entryKinds es = es.flatMap fun e => entryKind e.1 e.2 := by
  induction es with
  | nil => rfl
  | cons e es ih =>
    rw [entryKinds, ih, List.flatMap_cons]
    rfl

/-- The items `vs` of a sequence that has any. -/
theorem isEntry_items {vs : List Value} (hne : vs ≠ []) (h : ∀ v ∈ vs, Legible v) (c : Nat) :
    IsEntry .blockSequenceStart c (joinEntries c (itemsAt c vs)) (itemKinds vs) := by
  have hitems : ∀ e ∈ vs.map fun v =>
      ('-' :: valueAt ⟨.indicator, some c, false⟩ false false v, .blockEntry :: valueKinds false false v),
      IsEntry .blockSequenceStart c e.1 e.2 := List.forall_mem_map.2 fun v hv => isEntry_item (h v hv) c
  have := isEntry_joinEntries (by simpa using hne) hitems
  rw [itemsAt_eq_map, itemKinds_eq_flatMap]
  simpa [List.flatMap_map, Function.comp_def] using this

/-- The entries `es` of a mapping from texts that has any. -/
theorem isEntry_entries {es : List (Value × Value)} (hne : es ≠ [])
    (hkey : ∀ e ∈ es, ∃ t, e.1 = .scalar (.string t)) (h : ∀ e ∈ es, Legible e.2) (c : Nat) :
    IsEntry .blockMappingStart c (joinEntries c (entriesAt c es)) (entryKinds es) := by
  have hentries : ∀ e ∈ es.map fun e => (entryAt c e.1 e.2, entryKind e.1 e.2),
      IsEntry .blockMappingStart c e.1 e.2 := by
    refine List.forall_mem_map.2 fun e he => ?_
    obtain ⟨t, ht⟩ := hkey e he
    rw [ht]
    cases hsimple : isSimpleKey (.scalar (.string t)) with
    | true => exact isEntry_simple (h e he) c hsimple
    | false => exact isEntry_explicit (legible_text t) (h e he) hsimple c
  have := isEntry_joinEntries (by simpa using hne) hentries
  rw [entriesAt_eq_map, entryKinds_eq_flatMap]
  simpa [List.flatMap_map, Function.comp_def] using this

/-- A collection that stands at its `column` is `Legible`. -/
theorem legible_of_isEntry {v : Value} {block : Kind} (column : Position → Nat) {body : Nat → List Char}
    {ks : List Kind} (h : ∀ c, IsEntry block c (body c) ks) (hbody : ∀ p, bodyAt p v = body (column p))
    (hbegins : ∀ p c m allowed, Begins p c m allowed v → m.column = column p ∧ allowed = true)
    (hkinds : ∀ p c, p.IsInside c → (column p = c ∧ valueKinds false (p.lead = .key) v = ks) ∨
      (c < column p ∧ valueKinds false (p.lead = .key) v = block :: ks ++ [.blockEnd])) : Legible v where
  ne_nil p := hbody p ▸ (h _).ne_nil
  atToken p := hbody p ▸ (h _).atToken
  printed p := hbody p ▸ (h _).printed
  reads := by
    intro bs p c m allowed n next hp hm hn hnext
    obtain ⟨hcolumn, rfl⟩ := hbegins p c m allowed hm
    rw [hbody]
    -- either its entries go on in the mapping around it, or it opens and ends a block of its own
    rcases hkinds p c hp with ⟨hc, hk⟩ | ⟨hc, hk⟩
    · have := (h (column p)).reads (c :: bs) (n := n) hcolumn (by simp [hc]) (by omega) hnext
      rw [hc, opening_cons_self, opened_cons_self] at this
      rw [hk, hc]
      exact this
    · have := (h (column p)).reads (c :: bs) (n := n) hcolumn (by simpa using Nat.le_of_lt hc) (by omega) hnext
      rw [opening_cons_of_lt hc, opened_cons_of_lt hc, ends_cons_of_lt (by omega),
        left_cons_of_lt (by omega)] at this
      rw [hk]
      simpa using this

private theorem legible_sequence {vs : List Value} (hne : vs ≠ []) (h : ∀ v ∈ vs, Legible v) :
    Legible (.sequence vs) := by
  obtain ⟨w, ws, rfl⟩ := List.exists_cons_of_ne_nil hne
  refine legible_of_isEntry (fun p => (p.collection false true).1) (fun c => isEntry_items hne h c)
    (fun p => rfl) (fun p c m allowed h => h) fun p c hp => ?_
  rcases hp with ⟨hc, hlead | ⟨hlead, hmap⟩⟩
  · exact .inr ⟨by simp [Position.collection, hc, hlead, indentStep], by simp [valueKinds, hlead]⟩
  · exact .inl ⟨by simp [Position.collection, hc, hlead, hmap], by simp [valueKinds, hlead]⟩

private theorem legible_mapping {es : List (Value × Value)} (hne : es ≠ [])
    (hkey : ∀ e ∈ es, ∃ t, e.1 = .scalar (.string t)) (h : ∀ e ∈ es, Legible e.2) : Legible (.mapping es) := by
  obtain ⟨w, ws, rfl⟩ := List.exists_cons_of_ne_nil hne
  refine legible_of_isEntry (fun p => (p.collection false false).1) (fun c => isEntry_entries hne hkey h c)
    (fun p => rfl) (fun p c m allowed h => h) fun p c hp => ?_
  exact .inr ⟨by simp [Position.collection, hp.1, indentStep], by simp [valueKinds]⟩

private theorem legible_of_textual {v : Value} (h : Textual v) : Legible v := by
  induction h with
  | text t => exact legible_text t
  | @sequence items h ih =>
    by_cases hne : items = []
    · subst hne
      exact legible_emptySequence
    · exact legible_sequence hne ih
  | @mapping entries hkey h ih =>
    by_cases hne : entries = []
    · subst hne
      exact legible_emptyMapping
    · exact legible_mapping hne hkey ih

/-! ## Documents -/

private theorem document_eq (v : Value) : document v = closed (bodyAt ⟨.start, none, false⟩ v) := by
  have hlead : leadAt ⟨.start, none, false⟩ v = [] := by
    rcases v with s | (- | ⟨v, vs⟩) | (- | ⟨e, es⟩) | ⟨t, v⟩ <;>
      simp [leadAt, leadAt.before, Position.collection, Position.gap]
  rw [document, valueAt_eq, hlead]
  rfl

/-- A block collection `e` that is a document is read to its end. -/
theorem IsEntry.reads_document {block : Kind} {e : List Char} {ks : List Kind} (h : IsEntry block 0 e ks) :
    Reads [] .start (closed e) ⟨[], true⟩ (block :: ks) ⟨[0], true⟩ := by
  have := h.reads [] (m := .start) (n := 0) rfl rfl (Nat.le_refl 0) atToken_nil
  simpa [spaces, opening, opened, left_cons_of_le, ends_cons_of_le] using this

/-- A collection `v` that is a document is read to its end, at which its blocks `bs` are still open. -/
theorem exists_reads_document {v : Value} (h : Textual v) (hscalar : ∀ t, v ≠ .scalar (.string t)) :
    ∃ ks bs, Reads [] .start (closed (bodyAt ⟨.start, none, false⟩ v)) ⟨[], true⟩ ks ⟨bs, true⟩ ∧
      ks ++ bs.map (fun _ => .blockEnd) = valueKinds false false v := by
  cases h with
  | text t => exact absurd rfl (hscalar t)
  | @sequence items h =>
    cases items with
    | nil => exact ⟨_, _, reads_emptySequence (n := 0) atToken_nil (by simp), by simp [valueKinds]⟩
    | cons w ws =>
      have hentry := isEntry_items (List.cons_ne_nil w ws) (fun v hv => legible_of_textual (h v hv)) 0
      exact ⟨_, _, hentry.reads_document, by simp [valueKinds]⟩
  | @mapping entries hkey h =>
    cases entries with
    | nil => exact ⟨_, _, reads_emptyMapping (n := 0) atToken_nil (by simp), by simp [valueKinds]⟩
    | cons w ws =>
      have hentry := isEntry_entries (List.cons_ne_nil w ws) hkey (fun e he => legible_of_textual (h e he)) 0
      exact ⟨_, _, hentry.reads_document, by simp [valueKinds]⟩

end Writer

open Writer Token in
/-- The text of a document whose value `v` is a collection has the tokens of `v`. -/
theorem Value.kinds_render {v : Value} (h : Textual v) (hscalar : ∀ t, v ≠ .scalar (.string t)) :
    (TokenStream.ofText v.render).tokens.map (·.kind) = valueKinds false false v ++ [.streamEnd] := by
  have hlegible := legible_of_textual h
  have htext : v.render.toList = closed (bodyAt ⟨.start, none, false⟩ v) := by
    rw [Value.render, String.toList_ofList, document_eq]
  have htoken : AtToken (closed (bodyAt ⟨.start, none, false⟩ v)) := by
    rw [← List.append_nil (closed _)]
    exact hlegible.atToken_closed _ []
  obtain ⟨ks, bs, hreads, hkinds⟩ := exists_reads_document h hscalar
  rw [← htext] at htoken hreads
  rw [← hkinds]
  exact TokenStream.kinds_ofText (htext ▸ printed_closed (hlegible.printed _)) htoken hreads

end DatasetLint.Yaml
