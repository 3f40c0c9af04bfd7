import DatasetLint.Check.Prefixes
import DatasetLint.Proofs.Text.Span

/-!
# Lines that declare a prefix

What a line looks like that declares a prefix, said without going through it. A scan from the left finds exactly
these declarations: every part of one ends at a character that cannot belong to it, so that nothing has to be tried
twice.
-/

namespace DatasetLint.Check.Prefixes

open Text

/-! ## The form of a declaration -/

/-- The word of a declaration: `@prefix` as it stands, or `prefix` in any letter case. -/
def IsKeyword (w : List Char) : Prop := w = "@prefix".toList ∨ w.map Char.toLower = "prefix".toList

/-- A line that declares something: blanks, a word with `IsKeyword`, blanks, the prefix up to `:`, blanks, and the
namespace in angles, with whatever behind it. -/
inductive IsDeclaration : List Char → Declaration → Prop where
  | intro {indent word gap name space url rest : List Char} (hindent : ∀ c ∈ indent, isBlank c = true)
    (hword : IsKeyword word) (hgap : ∀ c ∈ gap, isBlank c = true) (hne : gap ≠ [])
    (hname : ∀ c ∈ name, isNameChar c = true) (hspace : ∀ c ∈ space, isBlank c = true) (hurl : '>' ∉ url) :
    IsDeclaration (indent ++ (word ++ (gap ++ (name ++ ':' :: (space ++ '<' :: (url ++ '>' :: rest)))))) ⟨name, url⟩

/-! ## Letters in any case -/

private theorem toNat_toLower (c : Char) :
    c.toLower.toNat = if 65 ≤ c.toNat ∧ c.toNat ≤ 90 then c.toNat + 32 else c.toNat := by
  have hupper : (c.val ≥ 'A'.val ∧ c.val ≤ 'Z'.val) ↔ 65 ≤ c.toNat ∧ c.toNat ≤ 90 := Iff.rfl
  unfold Char.toLower
  split
  · rename_i h
    have hle : c.val.toNat ≤ 90 := h.2
    rw [if_pos (hupper.1 h)]
    show (c.val + 32).toNat = c.val.toNat + 32
    rw [UInt32.toNat_add]
    exact Nat.mod_eq_of_lt (by show _ + 32 < _; omega)
  · rename_i h
    rw [if_neg fun hbounds => h (hupper.2 hbounds)]

private theorem lowerAscii_eq_toLower (c : Char) : lowerAscii c = c.toLower := by
  have hupper : ('A' ≤ c ∧ c ≤ 'Z') ↔ 65 ≤ c.toNat ∧ c.toNat ≤ 90 := Iff.rfl
  rw [← Char.toNat_inj, toNat_toLower, lowerAscii]
  split
  · rename_i h
    have hvalid : (c.toNat + 32).isValidChar := .inl (by have := hupper.1 h; omega)
    rw [if_pos (hupper.1 h), Char.ofNat, dif_pos hvalid]
    rfl
  · rename_i h
    rw [if_neg fun hbounds => h (hupper.2 hbounds)]

/-- `toLower` makes the small letter `c` only of this letter and of its capital. -/
theorem toLower_eq_iff {c d : Char} (hc : 'a' ≤ c ∧ c ≤ 'z') :
    d.toLower = c ↔ d = c ∨ d.toNat + 32 = c.toNat := by
  have hlow : 97 ≤ c.toNat := hc.1
  have hhigh : c.toNat ≤ 122 := hc.2
  rw [← Char.toNat_inj, toNat_toLower, ← Char.toNat_inj]
  split <;> omega

/-! ## The scan -/

theorem afterKeyword_eq_some_iff {line rest : List Char} :
    afterKeyword line = some rest ↔ ∃ w, line = w ++ rest ∧ IsKeyword w := by
  have hlower : ∀ w : List Char, w.map lowerAscii = w.map Char.toLower := fun w =>
    List.map_congr_left fun c _ => lowerAscii_eq_toLower c
  unfold afterKeyword
  dsimp only
  constructor
  · intro h
    split at h
    · rename_i hprefix
      obtain ⟨r, rfl⟩ := List.isPrefixOf_iff_prefix.1 hprefix
      cases h
      exact ⟨_, by rw [List.drop_left], .inl rfl⟩
    · split at h
      · rename_i hword
        cases h
        rw [hlower, beq_iff_eq] at hword
        exact ⟨_, (List.take_append_drop ..).symm, .inr hword⟩
      · cases h
  · rintro ⟨w, rfl, rfl | hword⟩
    · rw [if_pos (List.isPrefixOf_iff_prefix.2 (List.prefix_append ..)), List.drop_left]
    · -- the word has six letters, and its first is no at sign
      have hlength : w.length = "prefix".toList.length := by rw [← hword, List.length_map]
      have hprefix : ¬("@prefix".toList.isPrefixOf (w ++ rest) = true) := by
        rw [List.isPrefixOf_iff_prefix]
        rintro ⟨r, hr⟩
        cases w with
        | nil => cases hlength
        | cons c w =>
          obtain rfl : '@' = c := (List.cons.inj hr).1
          exact absurd (List.cons.inj hword).1 (by decide)
      rw [if_neg hprefix, ← hlength, List.take_left, List.drop_left, hlower, hword]
      exact if_pos (beq_self_eq_true _)

/-- The keyword `w` does not begin with a blank. -/
theorem IsKeyword.head?_not_blank {w : List Char} (h : IsKeyword w) (rest : List Char) :
    ∀ c ∈ (w ++ rest).head?, isBlank c = false := by
  intro c hc
  rcases h with rfl | hword
  · obtain rfl : '@' = c := Option.some.inj hc
    decide
  · cases w with
    | nil => cases hword
    | cons d w =>
      obtain rfl : d = c := Option.some.inj hc
      have hd : d.toLower = 'p' := (List.cons.inj hword).1
      rcases (toLower_eq_iff (by decide)).1 hd with rfl | hcapital
      · decide
      · obtain rfl : d = 'P' := Char.toNat_inj.1 (by change _ = 80; change _ = 112 at hcapital; omega)
        decide

theorem isBlank_iff {c : Char} : isBlank c = true ↔ (9 ≤ c.toNat ∧ c.toNat ≤ 13) ∨ c.toNat = 32 ∨ c.toNat = 133 ∨
    c.toNat = 160 ∨ c.toNat = 5760 ∨ (8192 ≤ c.toNat ∧ c.toNat ≤ 8202) ∨ c.toNat = 8232 ∨ c.toNat = 8233 ∨
    c.toNat = 8239 ∨ c.toNat = 8287 ∨ c.toNat = 12288 := by
  simp only [isBlank, Bool.or_eq_true, Bool.and_eq_true, decide_eq_true_eq, beq_iff_eq, or_assoc]

theorem isNameChar_iff {c : Char} : isNameChar c = true ↔ (65 ≤ c.toNat ∧ c.toNat ≤ 90) ∨
    (97 ≤ c.toNat ∧ c.toNat ≤ 122) ∨ (48 ≤ c.toNat ∧ c.toNat ≤ 57) ∨ c.toNat = 95 ∨ c.toNat = 46 ∨ c.toNat = 45 := by
  have hclasses : isNameChar c = (decide (65 ≤ c.val ∧ c.val ≤ 90) || decide (97 ≤ c.val) && decide (c.val ≤ 122) ||
      decide (48 ≤ c.val) && decide (c.val ≤ 57) || c == '_' || c == '.' || c == '-') := rfl
  have hchar : ∀ d : Char, (c == d) = true ↔ c.toNat = d.toNat := fun d => by rw [beq_iff_eq, Char.toNat_inj]
  rw [hclasses]
  simp only [Bool.or_eq_true, Bool.and_eq_true, decide_eq_true_eq, UInt32.le_iff_toNat_le, hchar, or_assoc]
  exact Iff.rfl

private theorem isBlank_eq_false_of_isNameChar {c : Char} (h : isNameChar c = true) : isBlank c = false := by
  rw [isNameChar_iff] at h
  rw [← Bool.not_eq_true, isBlank_iff]
  omega

private theorem declaration?_of_isDeclaration {line : List Char} {d : Declaration} (h : IsDeclaration line d) :
    declaration? line = some d := by
  obtain @⟨indent, word, gap, name, space, url, rest, hindent, hword, hgap, hne, hname, hspace, hurl⟩ := h
  -- every run ends where it should, for what follows it begins otherwise
  have hcolon : ∀ c ∈ (name ++ ':' :: (space ++ '<' :: (url ++ '>' :: rest))).head?, isBlank c = false := by
    intro c hc
    cases name with
    | nil =>
      obtain rfl : ':' = c := Option.some.inj hc
      decide
    | cons d name =>
      obtain rfl : d = c := Option.some.inj hc
      exact isBlank_eq_false_of_isNameChar (hname d (List.mem_cons_self ..))
  have hstart := span_append hindent (hword.head?_not_blank (gap ++ (name ++ ':' :: (space ++ '<' :: (url ++ '>' :: rest)))))
  have hgap' := span_append hgap hcolon
  have hname' := @span_append_cons _ isNameChar name (space ++ '<' :: (url ++ '>' :: rest)) ':' hname (by decide)
  have hspace' := @span_append_cons _ isBlank space (url ++ '>' :: rest) '<' hspace (by decide)
  have hurl' := @span_append_cons _ (· != '>') url rest '>' (fun c hc => bne_iff_ne.2 fun heq => hurl (heq ▸ hc)) (by decide)
  have hlength : (name ++ ':' :: (space ++ '<' :: (url ++ '>' :: rest))).length ≠
      (gap ++ (name ++ ':' :: (space ++ '<' :: (url ++ '>' :: rest)))).length := by
    have hpos := List.length_pos_iff.2 hne
    have hsum := @List.length_append _ gap (name ++ ':' :: (space ++ '<' :: (url ++ '>' :: rest)))
    omega
  unfold declaration?
  rw [hstart.2, afterKeyword_eq_some_iff.2 ⟨word, rfl, hword⟩]
  dsimp only
  rw [hgap'.2, if_neg hlength, hname'.1, List.drop_left]
  split
  · rename_i heq
    cases heq
    rw [hspace'.2]
    split
    · rename_i heq
      cases heq
      rw [hurl'.1, if_pos (by rw [List.length_append, List.length_cons]; omega)]
    · rename_i hother
      exact absurd rfl (hother _)
  · rename_i hother
    exact absurd rfl (hother _)

private theorem isDeclaration_of_declaration? {line : List Char} {d : Declaration} (h : declaration? line = some d) :
    IsDeclaration line d := by
  obtain ⟨indent, behind, hline, -, hdrop, hindent, -⟩ := exists_span isBlank line
  unfold declaration? at h
  rw [hdrop] at h
  split at h
  · cases h
  · rename_i r hr
    obtain ⟨word, rfl, hword⟩ := afterKeyword_eq_some_iff.1 hr
    obtain ⟨gap, named, rfl, -, hdrop', hgap, -⟩ := exists_span isBlank r
    obtain ⟨name, after, hnamed, htake, hafter, hname, -⟩ := exists_span isNameChar named
    dsimp only at h
    rw [hdrop', drop_length_takeWhile, htake, hafter] at h
    split at h
    · cases h
    · rename_i hlength
      have hne : gap ≠ [] := by
        rintro rfl
        exact hlength rfl
      split at h
      · rename_i r
        obtain ⟨space, angle, rfl, -, hangle, hspace, -⟩ := exists_span isBlank r
        rw [hangle] at h
        split at h
        · rename_i r
          obtain ⟨url, rest, rfl, hurl, -, hfree, hrest⟩ := exists_span (· != '>') r
          rw [hurl] at h
          split at h
          · rename_i hshort
            cases h
            subst hline hnamed
            -- the namespace ends before the text does, and only a bracket ends it
            cases rest with
            | nil => exact absurd hshort (by rw [List.append_nil]; exact Nat.lt_irrefl _)
            | cons c rest =>
              obtain rfl : c = '>' := by simpa using hrest c rfl
              exact .intro hindent hword hgap hne hname hspace fun hmem => by simpa using hfree _ hmem
          · cases h
        · cases h
      · cases h

/-- `declaration?` finds the declaration `d` that a line makes, if it makes one. -/
theorem declaration?_eq_some_iff {line : List Char} {d : Declaration} :
    declaration? line = some d ↔ IsDeclaration line d :=
  ⟨isDeclaration_of_declaration?, declaration?_of_isDeclaration⟩

end DatasetLint.Check.Prefixes
