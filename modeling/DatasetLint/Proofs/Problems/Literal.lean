import DatasetLint.Proofs.Pattern.Matcher
import DatasetLint.Proofs.Pattern.Reading
import DatasetLint.Suppression

/-!
# Patterns without meaning

A pattern in which no character has a meaning of its own is looked for as it stands. So it makes no difference whether
an entry of known problems has such a text for a pattern or for a part of the messages.
-/

namespace DatasetLint

/-! ## Parts of a text -/

theorem Text.occursIn_iff {w cs : List Char} : Text.occursIn w cs = true ↔ ∃ l r, cs = l ++ w ++ r := by
  have hpart : ∀ cs, (∃ l r, cs = l ++ w ++ r) ↔ w <:+: cs := fun cs =>
    ⟨fun ⟨l, r, h⟩ => ⟨l, r, h.symm⟩, fun ⟨l, r, h⟩ => ⟨l, r, h.symm⟩⟩
  rw [hpart]
  induction cs with
  | nil => rw [occursIn, List.isEmpty_iff, List.infix_nil]
  | cons c cs ih =>
    rw [occursIn, Bool.or_eq_true, List.isPrefixOf_iff_prefix, List.infix_cons_iff]
    exact or_congr_right ih

namespace Pattern

open Regex Grammar

/-! ## Literals -/

private theorem proper_literals (w : List Char) : (literals w).Proper := by
  unfold literals
  split
  · trivial
  · trivial
  · refine proper_foldl_seq trivial fun e he => ?_
    obtain ⟨c, -, rfl⟩ := List.mem_map.1 he
    trivial

/-- The `literals` of `w` match the part `p` of a text exactly if it is `w`. -/
theorem captures_literals_iff {w l p r : List Char} {gs : List (List Char)} :
    Captures (literals w) l p r gs ↔ gs = [] ∧ p = w := by
  rw [← capturesAll_literals_iff]
  unfold literals
  split
  · constructor
    · rintro ⟨⟩
      exact .nil
    · rintro ⟨⟩
      exact .empty
  · rename_i c
    rw [capturesAll_literals_iff (w := [c]), isOne_literal c]
    simp
  · exact captures_sequence_iff

private theorem isMatch_literals (w : List Char) (s : String) : (literals w).isMatch s = Text.occursIn w s.toList := by
  rw [Bool.eq_iff_iff, isMatch_iff (proper_literals w), Text.occursIn_iff]
  simp only [captures_literals_iff]
  constructor
  · rintro ⟨l, p, r, gs, h, -, rfl⟩
    exact ⟨l, r, h⟩
  · rintro ⟨l, r, h⟩
    exact ⟨l, w, r, [], h, rfl, rfl⟩

/-- `t`, in which no character `isMeta`, is a pattern for its `literals`, unless these are too large for one. -/
theorem ofText_literals {t : String} (ht : ∀ c ∈ t.toList, Escape.isMeta c = false) :
    ofText t = if Size.limit < Size.ofRegex (literals t.toList) then .error .tooLarge
      else .ok ⟨t, literals t.toList⟩ := by
  rw [ofText, read_literals ht]

/-- Such a pattern is found in `m` where `t` occurs in it. -/
theorem isMatch_of_ofText {t : String} (ht : ∀ c ∈ t.toList, Escape.isMeta c = false) {p : Pattern}
    (hp : ofText t = .ok p) (m : String) : p.isMatch m = Text.occursIn t.toList m.toList := by
  rw [ofText_literals ht] at hp
  split at hp
  · cases hp
  · cases hp
    exact isMatch_literals t.toList m

end Pattern

namespace Suppression

/-- If no character of `t` has a meaning in patterns, the entries for `r` with `.pattern p` and with `.contains t`
know the same problems, and `apply` with either of them, among any others, leaves out the same. -/
theorem suppresses_literal {t : String} (ht : ∀ c ∈ t.toList, Pattern.Escape.isMeta c = false) {p : Pattern}
    (hp : Pattern.ofText t = .ok p) (r : String) :
    (∀ q m, suppresses ⟨r, .pattern p⟩ q m = suppresses ⟨r, .contains t⟩ q m) ∧
      ∀ es fs s, apply (es ++ ⟨r, .pattern p⟩ :: fs) s = apply (es ++ ⟨r, .contains t⟩ :: fs) s := by
  have hsuppresses : ∀ q m, suppresses ⟨r, .pattern p⟩ q m = suppresses ⟨r, .contains t⟩ q m := by
    intro q m
    rw [suppresses, suppresses, MessageTest.holds, MessageTest.holds, Pattern.isMatch_of_ofText ht hp]
  refine ⟨hsuppresses, fun es fs s => ?_⟩
  rw [apply, apply]
  simp only [List.any_append, List.any_cons, hsuppresses]

/-- The pattern `größe`, which is no ASCII, for a message of two lines. -/
theorem suppresses_literal_twoLines : ∃ p, (∀ c ∈ "größe".toList, Pattern.Escape.isMeta c = false) ∧
    Pattern.ofText "größe" = .ok p ∧
    suppresses ⟨"a.ttl", .pattern p⟩ "a.ttl" "line 1\ngröße" = true ∧
    suppresses ⟨"a.ttl", .pattern p⟩ "a.ttl" "line 1\ngröß" = false ∧
    ∀ s, apply [⟨"a.ttl", .pattern p⟩] s = apply [⟨"a.ttl", .contains "größe"⟩] s := by
  have hnone : ("größe".toList.all fun c => Pattern.Escape.isMeta c == false) = true := by decide
  have hmeta : ∀ c ∈ "größe".toList, Pattern.Escape.isMeta c = false := fun c hc =>
    eq_of_beq (List.all_eq_true.1 hnone c hc)
  have hp : Pattern.ofText "größe" = .ok ⟨"größe", Pattern.Grammar.literals "größe".toList⟩ := by
    rw [Pattern.ofText_literals hmeta]
    exact if_neg (by decide)
  obtain ⟨hsuppresses, happly⟩ := suppresses_literal hmeta hp "a.ttl"
  refine ⟨_, hmeta, hp, ?_, ?_, happly [] []⟩
  · rw [hsuppresses]
    decide +kernel
  · rw [hsuppresses]
    decide +kernel

end Suppression

end DatasetLint
