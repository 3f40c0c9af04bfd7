/-!
# UTF-8

The text that a sequence of octets encodes. Where it encodes none, the length of its longest prefix that
does: characters are decoded from the left until one cannot be.
-/

namespace DatasetLint.Text.Utf8

/-- The end of the characters that can be decoded in a row from octet `i` on. -/
def validEnd (b : ByteArray) (i : Nat) : Nat :=
  match h : b.utf8DecodeChar? i with
  | none => i
  | some c =>
    have := ByteArray.le_size_of_utf8DecodeChar?_eq_some h
    have := c.utf8Size_pos
    validEnd b (i + c.utf8Size)
termination_by b.size - i

/-- The length of the longest prefix that encodes a text. -/
def validLength (b : ByteArray) : Nat := validEnd b 0

/-- The text that some octets encode. -/
def decode (b : ByteArray) : Option String := String.fromUTF8? b

/-- The octets of a text are those of no other text. -/
theorem decode_toUTF8 (t : String) : decode t.toUTF8 = some t := by
  have hvalid : t.toUTF8.IsValidUTF8 := t.isValidUTF8
  rw [decode, String.fromUTF8?, dif_pos hvalid]
  rfl

/-- The octets of a character. -/
def encode (c : Char) : List UInt8 := String.utf8EncodeChar c

end DatasetLint.Text.Utf8
