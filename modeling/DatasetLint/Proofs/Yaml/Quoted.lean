import DatasetLint.Proofs.Yaml.Marked

/-!
# Quoted scalars

A text in quotes reads back as itself. In double quotes every character stands for itself or is escaped,
and all of them are on one line. In single quotes a separator may end a line, and the indentation
behind it is dropped in reading.
-/

namespace DatasetLint.Yaml

open Writer Token

/-! ## Escaping -/

private theorem hexValue?_hexDigit {d : Nat} (h : d < 16) : hexValue? (hexDigit d) = some d := by
  have hall : ∀ d : Fin 16, hexValue? (hexDigit d) = some d.val := by decide
  exact hall ⟨d, h⟩

private theorem isPrintable_hexDigit (d : Nat) (h : d < 16) :
    isPrintable (hexDigit d) = true ∧ isBreak (hexDigit d) = false := by
  have hall : ∀ d : Fin 16, isPrintable (hexDigit d) = true ∧ isBreak (hexDigit d) = false := by decide
  exact hall ⟨d, h⟩

private theorem mem_hexDigits {w n : Nat} {c : Char} (h : c ∈ hexDigits w n) : ∃ d < 16, c = hexDigit d := by
  induction w generalizing n with
  | zero => cases h
  | succ w ih =>
    rw [hexDigits, List.mem_append, List.mem_singleton] at h
    rcases h with h | h
    · exact ih h
    · exact ⟨n % 16, Nat.mod_lt _ (by omega), h⟩

@[simp] theorem length_hexDigits (w n : Nat) : (hexDigits w n).length = w := by
  induction w generalizing n with
  | zero => rfl
  | succ w ih => rw [hexDigits, List.length_append, ih]; rfl

/-- The letter `l` behind a backslash stands for the character `c` that it was written for. -/
theorem escapedChar?_of_escapeLetter? {c l : Char} (h : escapeLetter? c = some l) :
    escapedChar? l = some c ∧ isPrintable l = true ∧ isBreak l = false := by
  unfold escapeLetter? at h
  split at h <;> cases h <;> decide

private theorem charOf?_toNat (c : Char) : charOf? c.toNat = some c := by
  have hvalid : c.toNat.isValidChar := c.valid
  rw [charOf?, if_pos hvalid, Char.ofNat_toNat]

/-- How the character `c` is written in double quotes. -/
theorem doubleChar_cases (c : Char) :
    (doubleChar c = [c] ∧ isPrintable c = true ∧ isBreak c = false ∧ c ≠ '"' ∧ c ≠ '\\') ∨
    (∃ l, doubleChar c = ['\\', l] ∧ escapeLetter? c = some l) ∨
    (doubleChar c = '\\' :: 'x' :: hexDigits 2 c.toNat ∧ c.toNat ≤ 0xFF) ∨
    (doubleChar c = '\\' :: 'u' :: hexDigits 4 c.toNat ∧ 0xFF < c.toNat ∧ c.toNat ≤ 0xFFFF) ∨
    (doubleChar c = '\\' :: 'U' :: hexDigits 8 c.toNat ∧ 0xFFFF < c.toNat) := by
  rw [doubleChar]
  split
  · rename_i h
    simp only [Bool.and_eq_true, Bool.not_eq_true', bne_iff_ne, ne_eq] at h
    obtain ⟨⟨⟨hprint, hbreak⟩, hquote⟩, hslash⟩ := h
    rw [endsLine_eq_isBreak hprint] at hbreak
    exact .inl ⟨rfl, hprint, hbreak, hquote, hslash⟩
  · cases hl : escapeLetter? c with
    | some l => exact .inr (.inl ⟨l, rfl, rfl⟩)
    | none =>
      dsimp only
      split
      · rename_i hx
        exact .inr (.inr (.inl ⟨rfl, hx⟩))
      · rename_i hx
        split
        · rename_i hu
          exact .inr (.inr (.inr (.inl ⟨rfl, by omega, hu⟩)))
        · rename_i hu
          exact .inr (.inr (.inr (.inr ⟨rfl, by omega⟩)))

/-- In double quotes every character `c` is written on the line by printable ones. -/
theorem isPrintable_of_mem_doubleChar {c d : Char} (h : d ∈ doubleChar c) :
    isPrintable d = true ∧ isBreak d = false := by
  have hhex : ∀ {x : Char} {w : Nat}, isPrintable x = true ∧ isBreak x = false →
      d ∈ '\\' :: x :: hexDigits w c.toNat → isPrintable d = true ∧ isBreak d = false := by
    intro x w hx hd
    rcases List.mem_cons.1 hd with rfl | hd
    · decide
    · rcases List.mem_cons.1 hd with rfl | hd
      · exact hx
      · obtain ⟨n, hn, rfl⟩ := mem_hexDigits hd
        exact isPrintable_hexDigit n hn
  rcases doubleChar_cases c with ⟨e, hprint, hbreak, -⟩ | ⟨l, e, hl⟩ | ⟨e, -⟩ | ⟨e, -⟩ | ⟨e, -⟩
  · rw [e, List.mem_singleton] at h
    exact h ▸ ⟨hprint, hbreak⟩
  · rw [e] at h
    rcases List.mem_cons.1 h with rfl | h
    · decide
    · rw [List.mem_singleton] at h
      exact h ▸ (escapedChar?_of_escapeLetter? hl).2
  · exact hhex (by decide) (e ▸ h)
  · exact hhex (by decide) (e ▸ h)
  · exact hhex (by decide) (e ▸ h)

/-- Escaping makes an octet of `c` four characters at most. -/
theorem length_doubleChar_le (c : Char) : (doubleChar c).length ≤ 4 * c.utf8Size := by
  have hpos := c.utf8Size_pos
  have hsize : c.utf8Size =
      if c.toNat ≤ 0x7F then 1 else if c.toNat ≤ 0x7FF then 2 else if c.toNat ≤ 0xFFFF then 3 else 4 := rfl
  rcases doubleChar_cases c with ⟨e, -⟩ | ⟨l, e, -⟩ | ⟨e, -⟩ | ⟨e, h, -⟩ | ⟨e, h⟩
  · rw [e, List.length_singleton]
    omega
  · rw [e, List.length_cons, List.length_singleton]
    omega
  · rw [e, List.length_cons, List.length_cons, length_hexDigits]
    omega
  · have htwo : 2 ≤ c.utf8Size := by
      rw [hsize, if_neg (by omega)]
      split
      · exact Nat.le_refl 2
      · split <;> omega
    rw [e, List.length_cons, List.length_cons, length_hexDigits]
    omega
  · rw [if_neg (by omega), if_neg (by omega), if_neg (by omega)] at hsize
    rw [e, List.length_cons, List.length_cons, length_hexDigits]
    omega

/-! ## Double quotes -/

/-- The value that `w` digits of `n` make behind the value `v`. -/
def hexShift : Nat → Nat → Nat → Nat
  | 0, v, _ => v
  | w + 1, v, n => 16 * hexShift w v (n / 16) + n % 16

/-- The first `w` digits of an escape, with `k` more to come. -/
theorem doubleQuoted_digits (g : List Char) (k w v n : Nat) (hk : 0 < k) (m : Mark) (t : List Char) :
    doubleQuoted (.digits g (w + k) v) (marked m (hexDigits w n ++ t)) =
      doubleQuoted (.digits g k (hexShift w v n)) (marked (m.through (hexDigits w n)) t) := by
  induction w generalizing k n t with
  | zero => rw [Nat.zero_add]; rfl
  | succ w ih =>
    have hdigit : hexValue? (hexDigit (n % 16)) = some (n % 16) := hexValue?_hexDigit (Nat.mod_lt _ (by omega))
    rw [hexDigits, List.append_assoc, show w + 1 + k = w + (k + 1) by omega, ih (k + 1) _ (by omega)]
    rw [List.singleton_append, marked_cons, doubleQuoted, hdigit]
    simp only [if_pos (show 1 < k + 1 by omega), Nat.add_sub_cancel, Mark.through_append]
    rfl

/-- An escape `x` by the number of the character `c`. -/
theorem doubleQuoted_hex {x : Char} {w : Nat} (hx : isBreak x = false ∧ escapedChar? x = none ∧
    escapeWidth? x = some (w + 1)) {c : Char} (hc : hexShift (w + 1) 0 c.toNat = c.toNat) (g : List Char)
    (m : Mark) (t : List Char) :
    doubleQuoted (.escape g) (marked m (x :: hexDigits (w + 1) c.toNat ++ t)) =
      (doubleQuoted (.text .none) (marked (m.through (x :: hexDigits (w + 1) c.toNat)) t)).map
        fun (s, r) => (g ++ c :: s, r) := by
  obtain ⟨hbreak, hletter, hwidth⟩ := hx
  rw [List.cons_append, marked_cons, doubleQuoted, hbreak, hletter, hwidth]
  simp only [Bool.false_eq_true, if_false, hexDigits, List.append_assoc]
  rw [doubleQuoted_digits g 1 w _ _ (by omega), List.singleton_append, marked_cons, doubleQuoted,
    hexValue?_hexDigit (Nat.mod_lt _ (by omega))]
  rw [hexShift] at hc
  simp only [Nat.lt_irrefl, if_false, hc, charOf?_toNat, Mark.through_cons, Mark.through_append]
  rfl

/-- What the escape of `c` behind the gap `g` reads as. -/
theorem doubleQuoted_escape {c : Char} {e : List Char} (h : doubleChar c = '\\' :: e) (g : List Char)
    (m : Mark) (t : List Char) :
    doubleQuoted (.escape g) (marked m (e ++ t)) =
      (doubleQuoted (.text .none) (marked (m.through e) t)).map fun (s, r) => (g ++ c :: s, r) := by
  rcases doubleChar_cases c with ⟨e', -, -, -, hslash⟩ | ⟨l, e', hl⟩ | ⟨e', hn⟩ | ⟨e', hn, hn'⟩ | ⟨e', hn⟩
  · rw [e'] at h
    cases h
    exact absurd rfl hslash
  · rw [e'] at h
    cases h
    obtain ⟨hread, -, hbreak⟩ := escapedChar?_of_escapeLetter? hl
    rw [List.singleton_append, marked_cons, doubleQuoted, hbreak, hread]
    rfl
  · rw [e'] at h
    cases h
    refine doubleQuoted_hex (by decide) ?_ g m t
    simp only [hexShift]
    omega
  · rw [e'] at h
    cases h
    refine doubleQuoted_hex (by decide) ?_ g m t
    simp only [hexShift]
    omega
  · rw [e'] at h
    cases h
    have hlt : c.toNat < 0x110000 := by
      rcases c.valid with h | ⟨-, h⟩
      · exact Nat.lt_trans h (by decide)
      · exact h
    refine doubleQuoted_hex (by decide) ?_ g m t
    simp only [hexShift]
    omega

section Double

variable {m : Mark} (hm : 0 < m.column) (gap : Gap) (r : Chars)

include hm

private theorem doubleQuoted_close : doubleQuoted (.text gap) (('"', m) :: r) = some (gap.text, r) := by
  rw [doubleQuoted, beq_eq_false_iff_ne.2 (Nat.ne_of_gt hm)]
  rfl

private theorem doubleQuoted_space : doubleQuoted (.text gap)
    ((' ', m) :: r) = doubleQuoted (.text (gap.addBlank ' ')) r := by
  rw [doubleQuoted, beq_eq_false_iff_ne.2 (Nat.ne_of_gt hm)]
  rfl

private theorem doubleQuoted_backslash : doubleQuoted (.text gap)
    (('\\', m) :: r) = doubleQuoted (.escape gap.text) r := by
  rw [doubleQuoted, beq_eq_false_iff_ne.2 (Nat.ne_of_gt hm)]
  rfl

/-- A character `c` that stands for itself. -/
theorem doubleQuoted_char {c : Char} (hgap : isGap c = false) (hbreak : isBreak c = false) (hquote : c ≠ '"')
    (hslash : c ≠ '\\') : doubleQuoted (.text gap) ((c, m) :: r) =
      (doubleQuoted (.text .none) r).map fun (t, s) => (gap.text ++ c :: t, s) := by
  rw [doubleQuoted, beq_eq_false_iff_ne.2 (Nat.ne_of_gt hm), hgap, hbreak, beq_eq_false_iff_ne.2 hquote,
    beq_eq_false_iff_ne.2 hslash]
  rfl

/-- What is written for `c` reads as `c`, and leaves a text without a gap. -/
theorem doubleQuoted_doubleChar {c : Char} (hspace : c ≠ ' ') (t : List Char) :
    doubleQuoted (.text gap) (marked m (doubleChar c ++ t)) =
      (doubleQuoted (.text .none) (marked (m.through (doubleChar c)) t)).map
        fun (s, r) => (gap.text ++ c :: s, r) := by
  rcases doubleChar_cases c with ⟨e, hprint, hbreak, hquote, hslash⟩ | hescaped
  · have hgap : isGap c = false := by
      rw [isGap_eq_of_isPrintable hprint]
      exact beq_eq_false_iff_ne.2 hspace
    rw [e, List.singleton_append, marked_cons, doubleQuoted_char hm gap _ hgap hbreak hquote hslash]
    rfl
  · have hslash : ∃ e, doubleChar c = '\\' :: e := by
      rcases hescaped with ⟨l, e, -⟩ | ⟨e, -⟩ | ⟨e, -⟩ | ⟨e, -⟩ <;> exact ⟨_, e⟩
    obtain ⟨e, he⟩ := hslash
    rw [he, List.cons_append, marked_cons, doubleQuoted_backslash hm, doubleQuoted_escape he, Mark.through_cons]

/-- A text `cs` in double quotes reads back as itself, behind the blanks `g` that came before. -/
theorem doubleQuoted_flatMap (cs g t : List Char) :
    doubleQuoted (.text (.blanks g)) (marked m (cs.flatMap doubleChar ++ '"' :: t)) =
      some (g ++ cs, marked (m.through (cs.flatMap doubleChar ++ ['"'])) t) := by
  induction cs generalizing g m with
  | nil =>
    rw [List.flatMap_nil, List.nil_append, marked_cons, doubleQuoted_close hm, List.append_nil]
    rfl
  | cons c cs ih =>
    -- what is written for the character stays on the line, so no document marker can begin in it
    have hline : ∀ d ∈ doubleChar c, isBreak d = false := fun d hd => (isPrintable_of_mem_doubleChar hd).2
    have hpast : 0 < (m.through (doubleChar c)).column := by
      rw [Mark.through_of_not_isBreak hline]
      exact Nat.add_pos_left hm _
    rw [List.flatMap_cons, List.append_assoc, List.append_assoc, Mark.through_append]
    by_cases hspace : c = ' '
    · subst hspace
      have hread : doubleQuoted (.text (.blanks g)) (marked m (doubleChar ' ' ++ (cs.flatMap doubleChar ++ '"' :: t))) =
          doubleQuoted (.text (.blanks (g ++ [' '])))
            (marked (m.through (doubleChar ' ')) (cs.flatMap doubleChar ++ '"' :: t)) := doubleQuoted_space hm _ _
      rw [hread, ih hpast, List.append_assoc, List.singleton_append]
    · rw [doubleQuoted_doubleChar hm _ hspace, Gap.none, ih hpast]
      rfl

end Double

/-! ## Single quotes -/

theorem hasPair_cons (p q : Char → Bool) (c : Char) (cs : List Char) :
    hasPair p q (c :: cs) = (p c && cs.head?.any q || hasPair p q cs) := by
  cases cs with
  | nil => simp [hasPair]
  | cons d cs => simp [hasPair]

/-- The quote that stands for a character of a text in single quotes, or two of them. -/
def singleChar (c : Char) : List Char := if c == '\'' then ['\'', '\''] else [c]

theorem singleBody_space (i : Nat) (atBreak : Bool) (cs : List Char) :
    singleBody i atBreak (' ' :: cs) = ' ' :: singleBody i atBreak cs := rfl

theorem singleBody_break {c : Char} (hprint : isPrintable c = true) (h : isBreak c = true) (i : Nat)
    (atBreak : Bool) (cs : List Char) : singleBody i atBreak (c :: cs) = c :: singleBody i true cs := by
  rw [singleBody, beq_eq_false_iff_ne.2 (ne_of_class h rfl), endsLine_eq_isBreak hprint, h]
  rfl

theorem singleBody_char {c : Char} (hprint : isPrintable c = true) (h : isBreak c = false) (hspace : c ≠ ' ')
    (i : Nat) (atBreak : Bool) (cs : List Char) : singleBody i atBreak (c :: cs) =
      (if atBreak then spaces i else []) ++ (singleChar c ++ singleBody i false cs) := by
  rw [singleBody, beq_eq_false_iff_ne.2 hspace, endsLine_eq_isBreak hprint, h, singleChar]
  simp only [Bool.false_eq_true, if_false, List.append_assoc]

private theorem singleQuoted_space (gap : Gap) (m : Mark) (r : Chars) :
    singleQuoted false gap ((' ', m) :: r) = singleQuoted false (gap.addBlank ' ') r := by
  rw [singleQuoted, atDocumentMarker_cons (by decide), Bool.and_false]
  rfl

private theorem singleQuoted_break {c : Char} (h : isBreak c = true) (gap : Gap) (m : Mark) (r : Chars) :
    singleQuoted false gap ((c, m) :: r) = singleQuoted false (gap.addBreak c) r := by
  have hgap : isGap c = false := by
    rw [isGap, beq_eq_false_iff_ne.2 (ne_of_class h rfl), beq_eq_false_iff_ne.2 (ne_of_class h rfl)]
    rfl
  rw [singleQuoted, atDocumentMarker_cons ⟨ne_of_class h rfl, ne_of_class h rfl⟩, Bool.and_false,
    beq_eq_false_iff_ne.2 (ne_of_class h rfl), hgap, h]
  rfl

/-- The indentation of a line is dropped. -/
theorem singleQuoted_spaces (f : Char) (more : List Char) (n : Nat) (m : Mark) (x : List Char) :
    singleQuoted false (.lines f more) (marked m (spaces n ++ x)) =
      singleQuoted false (.lines f more) (marked (m.through (spaces n)) x) := by
  induction n generalizing m with
  | zero => rfl
  | succ n ih =>
    rw [spaces, List.replicate_succ, List.cons_append, marked_cons, singleQuoted_space]
    exact ih _

/-- A character `c` behind a gap. -/
theorem singleQuoted_char {c : Char} (hprint : isPrintable c = true) (h : isBreak c = false) (hspace : c ≠ ' ')
    (gap : Gap) {m : Mark} (hm : m.column ≠ 0) (x : List Char) :
    singleQuoted false gap (marked m (singleChar c ++ x)) =
      (singleQuoted false .none (marked (m.through (singleChar c)) x)).map
        fun (t, s) => (gap.text ++ c :: t, s) := by
  have hcolumn : (m.column == 0) = false := beq_eq_false_iff_ne.2 hm
  by_cases hquote : c = '\''
  · subst hquote
    rw [singleChar, beq_self_eq_true, if_pos rfl, List.cons_append, List.singleton_append, marked_cons,
      marked_cons, singleQuoted, hcolumn, singleQuoted]
    rfl
  · have hgap : isGap c = false := by
      rw [isGap_eq_of_isPrintable hprint]
      exact beq_eq_false_iff_ne.2 hspace
    rw [singleChar, beq_eq_false_iff_ne.2 hquote, if_neg Bool.false_ne_true, List.singleton_append, marked_cons,
      singleQuoted, hcolumn, beq_eq_false_iff_ne.2 hquote, hgap, h]
    rfl

/-- The closing quote, behind which no other stands. -/
theorem singleQuoted_close (gap : Gap) {m : Mark} (hm : m.column ≠ 0) {t : List Char}
    (ht : t.head? ≠ some '\'') :
    singleQuoted false gap (marked m ('\'' :: t)) = some (gap.text, marked (m.through ['\'']) t) := by
  rw [marked_cons, singleQuoted, beq_eq_false_iff_ne.2 hm]
  cases t with
  | nil => rfl
  | cons c t =>
    have hc : (c == '\'') = false := beq_eq_false_iff_ne.2 fun e => ht (by rw [e]; rfl)
    simp [singleQuoted, hc]

theorem not_isBreak_singleChar {c : Char} (h : isBreak c = false) : ∀ d ∈ singleChar c, isBreak d = false := by
  rw [singleChar]
  split
  · simp only [List.forall_mem_cons, List.not_mem_nil, false_implies, implies_true]
    decide
  · exact List.forall_mem_singleton.2 h

private theorem column_through_singleChar {c : Char} (h : isBreak c = false) {m : Mark} (hm : m.column ≠ 0) :
    (m.through (singleChar c)).column ≠ 0 := by
  rw [Mark.through_of_not_isBreak (not_isBreak_singleChar h)]
  exact Nat.ne_of_gt (Nat.add_pos_left (Nat.pos_of_ne_zero hm) _)

/-! Reading is told apart by where it is: on a line behind the blanks that came before, or at the start of a line
behind the line ends that came before. -/

section Single

variable {i : Nat} {c : Char} {cs t : List Char}

/-- On a line the text `cs` is read back. Blanks `g` before a line end would be lost, so there are none. -/
def ReadsOnLine (i : Nat) (t cs : List Char) : Prop :=
  ∀ g m, m.column ≠ 0 → (g = [] ∨ cs.head?.any endsLine = false) →
    singleQuoted false (.blanks g) (marked m (singleBody i false cs ++ '\'' :: t)) =
      some (g ++ cs, marked (m.through (singleBody i false cs ++ ['\''])) t)

/-- At the start of a line the text `cs` is read back, if it does not begin with a space. -/
def ReadsAtStart (i : Nat) (t cs : List Char) : Prop :=
  ∀ f more m, f ≠ '\n' → cs.head?.any (· == ' ') = false →
    singleQuoted false (.lines f more) (marked m (singleBody i true cs ++ '\'' :: t)) =
      some (f :: more ++ cs, marked (m.through (singleBody i true cs ++ ['\''])) t)

private theorem column_through_spaces_ne (hi : 0 < i) (m : Mark) : (m.through (spaces i)).column ≠ 0 := by
  rw [Mark.through_spaces]
  exact Nat.ne_of_gt (Nat.add_pos_right _ hi)

private theorem readsOnLine_nil (ht : t.head? ≠ some '\'') : ReadsOnLine i t [] := by
  intro g m hm _
  have := singleQuoted_close (.blanks g) hm ht
  simpa [singleBody, Gap.text] using this

private theorem readsAtStart_nil (hi : 0 < i) (ht : t.head? ≠ some '\'') : ReadsAtStart i t [] := by
  intro f more m hf _
  have := singleQuoted_close (.lines f more) (column_through_spaces_ne hi m) ht
  simp only [singleBody, if_true, singleQuoted_spaces, this, Mark.through_append, Gap.text, if_neg hf,
    List.append_nil]

private theorem ReadsOnLine.space (h : ReadsOnLine i t cs) (hhead : cs.head?.any endsLine = false) :
    ReadsOnLine i t (' ' :: cs) := by
  intro g m _ _
  have := h (g ++ [' ']) (m.past ' ') (Nat.succ_ne_zero _) (.inr hhead)
  rw [singleBody_space, List.cons_append, marked_cons, singleQuoted_space, Gap.addBlank, this]
  simp

/-- The line end `c` leads from a line to the start of the next one. -/
theorem ReadsAtStart.lineEnd (h : ReadsAtStart i t cs) (hprint : isPrintable c = true) (hbreak : isBreak c = true)
    (hnl : c ≠ '\n') (hhead : cs.head?.any (· == ' ') = false) : ReadsOnLine i t (c :: cs) := by
  intro g m _ hg
  have hg : g = [] := hg.resolve_right (by simp [endsLine_eq_isBreak hprint, hbreak])
  subst hg
  have := h c [] (m.past c) hnl hhead
  rw [singleBody_break hprint hbreak, List.cons_append, marked_cons, singleQuoted_break hbreak, Gap.addBreak, this]
  simp

private theorem ReadsAtStart.furtherEnd (h : ReadsAtStart i t cs) (hprint : isPrintable c = true)
    (hbreak : isBreak c = true)
    (hhead : cs.head?.any (· == ' ') = false) : ReadsAtStart i t (c :: cs) := by
  intro f more m hf _
  have := h f (more ++ [c]) (m.past c) hf hhead
  rw [singleBody_break hprint hbreak, List.cons_append, marked_cons, singleQuoted_break hbreak, Gap.addBreak, this]
  simp

/-- A character `c` behind a gap is read, and leaves a line without a gap. -/
theorem ReadsOnLine.singleQuoted_eq (h : ReadsOnLine i t cs) (hprint : isPrintable c = true)
    (hbreak : isBreak c = false) (hspace : c ≠ ' ') (gap : Gap) {m : Mark} (hm : m.column ≠ 0) :
    singleQuoted false gap (marked m (singleChar c ++ (singleBody i false cs ++ '\'' :: t))) =
      some (gap.text ++ c :: cs,
        marked ((m.through (singleChar c)).through (singleBody i false cs ++ ['\''])) t) := by
  rw [singleQuoted_char hprint hbreak hspace gap hm, Gap.none,
    h [] _ (column_through_singleChar hbreak hm) (.inl rfl)]
  rfl

private theorem ReadsOnLine.char (h : ReadsOnLine i t cs) (hprint : isPrintable c = true) (hbreak : isBreak c = false)
    (hspace : c ≠ ' ') : ReadsOnLine i t (c :: cs) := by
  intro g m hm _
  have := h.singleQuoted_eq hprint hbreak hspace (.blanks g) hm
  rw [singleBody_char hprint hbreak hspace]
  simpa [Gap.text] using this

/-- The first character `c` of a line stands behind the indentation. -/
theorem ReadsOnLine.firstChar (h : ReadsOnLine i t cs) (hi : 0 < i) (hprint : isPrintable c = true)
    (hbreak : isBreak c = false) (hspace : c ≠ ' ') : ReadsAtStart i t (c :: cs) := by
  intro f more m hf _
  have := h.singleQuoted_eq hprint hbreak hspace (.lines f more) (column_through_spaces_ne hi m)
  rw [singleBody_char hprint hbreak hspace, if_pos rfl, List.append_assoc, singleQuoted_spaces, List.append_assoc, this]
  simp only [Gap.text, if_neg hf, Mark.through_append, List.append_assoc]

/-- A text `cs` that may be written in single quotes reads back as itself. -/
theorem singleQuoted_singleBody (hi : 0 < i) (hprint : Printed cs) (hspace : hasPair (· == ' ') endsLine cs = false)
    (hbreak : hasPair endsLine (· == ' ') cs = false) (hnl : '\n' ∉ cs) (ht : t.head? ≠ some '\'') :
    ReadsOnLine i t cs ∧ ReadsAtStart i t cs := by
  induction cs with
  | nil => exact ⟨readsOnLine_nil ht, readsAtStart_nil hi ht⟩
  | cons c cs ih =>
    rw [printed_cons] at hprint
    rw [hasPair_cons, Bool.or_eq_false_iff, Bool.and_eq_false_imp] at hspace hbreak
    rw [List.mem_cons, not_or] at hnl
    obtain ⟨hline, hstart⟩ := ih hprint.2 hspace.2 hbreak.2 hnl.2
    by_cases hsp : c = ' '
    · subst hsp
      exact ⟨hline.space (hspace.1 rfl), fun f more m _ hhead => nomatch hhead⟩
    · cases hbr : isBreak c with
      | true =>
        have hhead : cs.head?.any (· == ' ') = false := hbreak.1 (by rw [endsLine_eq_isBreak hprint.1, hbr])
        exact ⟨hstart.lineEnd hprint.1 hbr (Ne.symm hnl.1) hhead, hstart.furtherEnd hprint.1 hbr hhead⟩
      | false => exact ⟨hline.char hprint.1 hbr hsp, hline.firstChar hi hprint.1 hbr hsp⟩

end Single

end DatasetLint.Yaml
