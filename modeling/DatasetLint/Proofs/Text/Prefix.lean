import DatasetLint.Text.Utf8
import Mathlib.Order.Bounds.Defs

/-!
# The longest prefix that encodes a text

Characters are decoded from the left as long as there is one. Where this ends, a prefix ends that encodes a text,
and no longer one does: its octets begin with the same characters, one after the other.
-/

namespace DatasetLint.Text.Utf8

variable {b : ByteArray} {i n : Nat} {c : Char}

/-! ## One character -/

/-- The octets that `c` is decoded from are its encoding. -/
theorem extract_of_utf8DecodeChar? (h : b.utf8DecodeChar? i = some c) :
    b.extract i (i + c.utf8Size) = [c].utf8Encode := by
  have hsize := ByteArray.le_size_of_utf8DecodeChar?_eq_some h
  rw [ByteArray.utf8DecodeChar?_eq_utf8DecodeChar?_extract] at h
  rw [List.utf8Encode_singleton, String.toByteArray_utf8EncodeChar_of_utf8DecodeChar?_eq_some h,
    ByteArray.extract_extract, Nat.add_zero, Nat.min_eq_left hsize]

/-- Octets up to `n` that encode a text and are not none at all begin with a character. -/
theorem exists_utf8DecodeChar? (hlt : i < n) (hn : n ≤ b.size) (h : (b.extract i n).IsValidUTF8) :
    ∃ c, b.utf8DecodeChar? i = some c ∧ i + c.utf8Size ≤ n ∧ (b.extract (i + c.utf8Size) n).IsValidUTF8 := by
  obtain ⟨m, hm⟩ := id h
  cases m with
  | nil =>
    have hsize := congrArg ByteArray.size hm
    rw [ByteArray.size_extract, List.utf8Encode_nil, ByteArray.size_empty, Nat.min_eq_left hn] at hsize
    omega
  | cons c cs =>
    have hfirst : (b.extract i n).utf8DecodeChar? 0 = some c := hm ▸ List.utf8DecodeChar?_utf8Encode_cons
    have hle := ByteArray.le_size_of_utf8DecodeChar?_eq_some hfirst
    rw [ByteArray.size_extract, Nat.min_eq_left hn, Nat.zero_add] at hle
    have hc : b.utf8DecodeChar? i = some c := by
      rw [ByteArray.utf8DecodeChar?_eq_utf8DecodeChar?_extract,
        ByteArray.extract_eq_extract_append_extract n (Nat.le_of_lt hlt) hn]
      exact ByteArray.utf8DecodeChar?_append_eq_some hfirst _
    refine ⟨c, hc, by omega, ?_⟩
    rw [ByteArray.extract_eq_extract_append_extract (i + c.utf8Size) (Nat.le_add_right ..) (by omega),
      extract_of_utf8DecodeChar? hc] at h
    exact ByteArray.isValidUTF8_utf8Encode_singleton_append_iff.1 h

/-! ## Characters in a row -/

private theorem validEnd_of_eq_none (h : b.utf8DecodeChar? i = none) : validEnd b i = i := by
  rw [validEnd]
  split
  · rfl
  · rename_i hd
    cases h.symm.trans hd

private theorem validEnd_of_eq_some (h : b.utf8DecodeChar? i = some c) :
    validEnd b i = validEnd b (i + c.utf8Size) := by
  rw [validEnd]
  split
  · rename_i hd
    cases h.symm.trans hd
  · rename_i hd
    cases h.symm.trans hd
    rfl

/-- What is decoded in a row from `i` lies within the octets, and encodes a text. -/
theorem validEnd_spec (b : ByteArray) (hi : i ≤ b.size) :
    i ≤ validEnd b i ∧ validEnd b i ≤ b.size ∧ (b.extract i (validEnd b i)).IsValidUTF8 := by
  induction i using validEnd.induct b with
  | case1 i h =>
    rw [validEnd_of_eq_none h, ByteArray.extract_same]
    exact ⟨Nat.le_refl i, hi, ByteArray.isValidUTF8_empty⟩
  | case2 i c h hsize _ ih =>
    obtain ⟨hge, hle, hvalid⟩ := ih hsize
    rw [validEnd_of_eq_some h, ByteArray.extract_eq_extract_append_extract (i + c.utf8Size) (Nat.le_add_right ..) hge,
      extract_of_utf8DecodeChar? h]
    exact ⟨Nat.le_trans (Nat.le_add_right ..) hge, hle, ByteArray.isValidUTF8_utf8Encode_singleton_append_iff.2 hvalid⟩

/-- Octets that encode a text do not go on beyond `validEnd`. -/
theorem le_validEnd (hn : n ≤ b.size) (h : (b.extract i n).IsValidUTF8) : n ≤ validEnd b i := by
  induction i using validEnd.induct b with
  | case1 i hnone =>
    rw [validEnd_of_eq_none hnone]
    refine Nat.le_of_not_lt fun hlt => ?_
    obtain ⟨c, hc, -⟩ := exists_utf8DecodeChar? hlt hn h
    cases hnone.symm.trans hc
  | case2 i c hc hsize _ ih =>
    rw [validEnd_of_eq_some hc]
    by_cases hlt : i < n
    · obtain ⟨d, hd, -, hvalid⟩ := exists_utf8DecodeChar? hlt hn h
      cases hc.symm.trans hd
      exact ih hvalid
    · have hge := (validEnd_spec b hsize).1
      omega

/-- `validLength b` is the length of the longest prefix of `b` that encodes a text. -/
theorem isGreatest_validLength (b : ByteArray) :
    IsGreatest {n | n ≤ b.size ∧ (b.extract 0 n).IsValidUTF8} (validLength b) := by
  obtain ⟨-, hle, hvalid⟩ := validEnd_spec b (Nat.zero_le _)
  exact ⟨⟨hle, hvalid⟩, fun n hn => le_validEnd hn.1 hn.2⟩

/-- Octets `b` that encode no text do not do so because of one of them. -/
theorem validLength_lt (h : ¬b.IsValidUTF8) : validLength b < b.size := by
  obtain ⟨⟨hle, hvalid⟩, -⟩ := isGreatest_validLength b
  refine Nat.lt_of_le_of_ne hle fun heq => h ?_
  rwa [heq, ByteArray.extract_zero_size] at hvalid

theorem decode_eq_none_iff : decode b = none ↔ ¬b.IsValidUTF8 := by
  rw [decode, String.fromUTF8?]
  split <;> simp [*]

theorem exists_toUTF8_of_isValidUTF8 (h : b.IsValidUTF8) : ∃ t : String, b = t.toUTF8 :=
  ⟨.fromUTF8 b h, rfl⟩

end DatasetLint.Text.Utf8
