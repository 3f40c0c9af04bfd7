import DatasetLint.Text.Utf8
import Mathlib.Algebra.Group.Nat.Defs
import Mathlib.Data.List.Lex

/-!
# The order of texts

Texts are compared by their code points, and that is the order of their octets: of two characters the one with
the smaller code point has the smaller octet where their encodings first differ.
-/

namespace DatasetLint.Text.Utf8

/-- The octets of the text `s` in UTF-8. -/
def octets (s : String) : List UInt8 := s.toUTF8.data.toList

private theorem octets_eq_flatMap (s : String) : octets s = s.toList.flatMap encode := by
  have h : s.toUTF8 = s.toList.utf8Encode := String.utf8Encode_toList.symm
  rw [octets, h, List.utf8Encode, List.toList_data_toByteArray]
  rfl

/-! ## Characters -/

/-- Octets are compared as the numbers `m` and `n`, and then by what follows them. -/
theorem lex_cons {m n : Nat} (hm : m < 256) (hn : n < 256) {as bs : List UInt8}
    (h : m < n ∨ m = n ∧ List.Lex (· < ·) as bs) :
    List.Lex (· < ·) (UInt8.ofNat m :: as) (UInt8.ofNat n :: bs) := by
  rcases h with hlt | ⟨rfl, hrest⟩
  · refine .rel ?_
    rw [UInt8.lt_iff_toNat_lt, UInt8.toNat_ofNat_of_lt' hm, UInt8.toNat_ofNat_of_lt' hn]
    exact hlt
  · exact .cons hrest

/-- The last `k` octets of a character, which have the last `k` digits of its code point to the base of 64. -/
private def continuation : Nat → Nat → List UInt8
  | 0, _ => []
  | k + 1, m => UInt8.ofNat (m / 64 ^ k % 64 + 128) :: continuation k m

section Digits

variable {m n : Nat} (hlt : m < n)

include hlt

/-- The numbers `m` and `n` are compared by their quotients by `k` first. -/
theorem lex_quotient (k : Nat) {a b : Nat} (ha : a < 256) (hb : b < 256) {as bs : List UInt8}
    (hless : m / k < n / k → a < b) (hsame : m / k = n / k → a = b)
    (hrest : m / k = n / k → List.Lex (· < ·) as bs) :
    List.Lex (· < ·) (UInt8.ofNat a :: as) (UInt8.ofNat b :: bs) := by
  refine lex_cons ha hb ?_
  rcases Nat.lt_or_eq_of_le (Nat.div_le_div_right (c := k) hlt.le) with hquotient | hquotient
  · exact .inl (hless hquotient)
  · exact .inr ⟨hsame hquotient, hrest hquotient⟩

/-- With the same quotient by `64 ^ k` it is the last `k` digits that differ. -/
private theorem lex_continuation (as bs : List UInt8) (k : Nat) (hsame : m / 64 ^ k = n / 64 ^ k) :
    List.Lex (· < ·) (continuation k m ++ as) (continuation k n ++ bs) := by
  induction k with
  | zero =>
    rw [Nat.pow_zero, Nat.div_one, Nat.div_one] at hsame
    exact absurd hsame hlt.ne
  | succ k ih =>
    -- the digit at `64 ^ k` tells the quotients by `64 ^ k` apart, since those by `64 ^ (k + 1)` are the same
    rw [Nat.pow_succ, ← Nat.div_div_eq_div_mul, ← Nat.div_div_eq_div_mul] at hsame
    exact lex_quotient hlt (64 ^ k) (by omega) (by omega) (by omega) (by omega) ih

/-- Two characters of `k + 1` octets, of which the first has the mark `lead` and what is left of the code point. -/
private theorem lex_lead (k width lead : Nat) (hn : n / 64 ^ k < width) (hlead : width + lead ≤ 256)
    (as bs : List UInt8) :
    List.Lex (· < ·) (UInt8.ofNat (m / 64 ^ k % width + lead) :: continuation k m ++ as)
      (UInt8.ofNat (n / 64 ^ k % width + lead) :: continuation k n ++ bs) := by
  have hm : m / 64 ^ k < width := lt_of_le_of_lt (Nat.div_le_div_right hlt.le) hn
  rw [Nat.mod_eq_of_lt hm, Nat.mod_eq_of_lt hn]
  exact lex_quotient hlt (64 ^ k) (by omega) (by omega) (by omega) (by omega) (lex_continuation hlt as bs k)

end Digits

/-- The encodings of `c` and `d` are in the order of their code points, whatever follows them. -/
theorem lex_encode {c d : Char} (h : c < d) (as bs : List UInt8) :
    List.Lex (· < ·) (encode c ++ as) (encode d ++ bs) := by
  have hlt : c.val.toNat < d.val.toNat := h
  have hd : d.val.toNat < 0x110000 := by
    have hvalid : d.val.toNat < 0xd800 ∨ 0xdfff < d.val.toNat ∧ d.val.toNat < 0x110000 := d.valid
    omega
  rw [encode, encode, String.utf8EncodeChar, String.utf8EncodeChar]
  generalize c.val.toNat = m at hlt ⊢
  generalize d.val.toNat = n at hlt hd ⊢
  -- with more octets the first one is larger
  split
  · split
    · exact lex_cons (by omega) (by omega) (.inl hlt)
    · split
      · exact lex_cons (by omega) (by omega) (.inl (by omega))
      · split
        · exact lex_cons (by omega) (by omega) (.inl (by omega))
        · exact lex_cons (by omega) (by omega) (.inl (by omega))
  · rw [if_neg (by omega : ¬n ≤ 127)]
    split
    · split
      · simpa [continuation] using lex_lead hlt 1 32 192 (by omega) (by omega) as bs
      · split
        · exact lex_cons (by omega) (by omega) (.inl (by omega))
        · exact lex_cons (by omega) (by omega) (.inl (by omega))
    · rw [if_neg (by omega : ¬n ≤ 2047)]
      split
      · split
        · simpa [continuation] using lex_lead hlt 2 16 224 (by omega) (by omega) as bs
        · exact lex_cons (by omega) (by omega) (.inl (by omega))
      · rw [if_neg (by omega : ¬n ≤ 65535)]
        simpa [continuation] using lex_lead hlt 3 8 240 (by omega) (by omega) as bs

/-! ## Texts -/

/-- If `s` is before `t` it is so by its `octets`. -/
theorem lex_octets {s t : String} (h : s < t) : List.Lex (· < ·) (octets s) (octets t) := by
  rw [octets_eq_flatMap, octets_eq_flatMap]
  have hlex : List.Lex (· < ·) s.toList t.toList := List.lex_lt.2 h
  generalize s.toList = cs at hlex ⊢
  generalize t.toList = ds at hlex ⊢
  induction hlex with
  | @nil d ds =>
    obtain ⟨o, os, hencode⟩ := List.exists_cons_of_ne_nil (String.utf8EncodeChar_ne_nil (c := d))
    rw [List.flatMap_nil, List.flatMap_cons, encode, hencode]
    exact .nil
  | @rel c cs d ds hcd =>
    rw [List.flatMap_cons, List.flatMap_cons]
    exact lex_encode hcd _ _
  | @cons c cs ds _ ih =>
    rw [List.flatMap_cons, List.flatMap_cons]
    exact List.Lex.append_left _ ih _

end DatasetLint.Text.Utf8
