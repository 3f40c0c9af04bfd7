import DatasetLint.Proofs.Binding.Scalars
import DatasetLint.Proofs.Config.Scalars
import DatasetLint.Proofs.Yaml.Integers

/-!
# Integers from a document to a field

An integer is read in one of four bases, is written in decimal, and is read again by the type of a field. On this way
it stays what it is: the field has the very integer that the document spells, or binding stops there if that is none of
the field's type.
-/

namespace DatasetLint

namespace Yaml

open Decimal

/-- A text `t` that spells an integer stands plain. -/
theorem Scalar.Spells.isPlain {sign : Sign} {t : String} {n : Int} (h : Scalar.Spells sign t.toList n) : IsPlain t := by
  have hletters : ∀ {radix : Nat} {digits : List Char}, IsDigits radix digits → ∀ c ∈ digits, c.isAlphanum = true :=
    fun hdigits c hc => isAlphanum_of_digitValue (hdigits.2 c hc)
  -- behind the sign is a digit, and behind that letters and digits
  obtain ⟨c, cs, htext, hall⟩ : ∃ c cs, t.toList = sign.text ++ c :: cs ∧ ∀ d ∈ c :: cs, d.isAlphanum = true := by
    generalize t.toList = text at h
    cases h with
    | decimal hdigits =>
      obtain ⟨c, cs, rfl⟩ := List.exists_cons_of_ne_nil hdigits.1
      exact ⟨c, cs, rfl, hletters hdigits⟩
    | @inRadix letter radix digits hletter hdigits =>
      have halpha : letter.isAlphanum = true := by
        rw [Scalar.radixOf?.eq_def] at hletter
        split at hletter <;> first | rfl | cases hletter
      exact ⟨'0', letter :: digits, rfl, List.forall_mem_cons.2 ⟨rfl, List.forall_mem_cons.2 ⟨halpha, hletters hdigits⟩⟩⟩
  have hnumeral : ∀ d ∈ c :: cs, isNumeral d = true := by
    intro d hd
    rw [isNumeral, hall d hd]
    rfl
  have hne : ∀ d, d.isAlphanum = false → c ≠ d := by
    rintro d hd rfl
    rw [hall c (List.mem_cons_self ..)] at hd
    cases hd
  cases sign with
  | absent =>
    refine isPlain_of_isNumeral htext hnumeral fun hmark => ?_
    rcases hmark with hmark | hmark
    · exact absurd hmark (hne '-' rfl)
    · exact absurd hmark (hne '.' rfl)
  | plus =>
    refine isPlain_of_isNumeral htext (List.forall_mem_cons.2 ⟨rfl, hnumeral⟩) fun hmark => ?_
    rcases hmark with hmark | hmark <;> cases hmark
  | minus =>
    exact isPlain_of_isNumeral htext (List.forall_mem_cons.2 ⟨rfl, hnumeral⟩) fun _ => ⟨c, cs, rfl, hne '-' rfl⟩

/-- A scalar `t` that means `n` under some tag spells it. -/
theorem Node.spells_of_scalarMeaning {tag : Option String} {t : String} {style : Style} {n : Int}
    (h : Node.scalarMeaning tag t style = .ok (.int n)) : ∃ sign, Scalar.Spells sign t.toList n := by
  have hread : Scalar.ofPlain t = .int n ∨ Scalar.readInt? t = some n := by
    rw [Node.scalarMeaning.eq_def] at h
    grind [Option.map_eq_some_iff]
  rcases hread with hplain | hread
  · exact Scalar.spells_of_readInt? (Scalar.ofPlain_eq_int_iff_readInt?.1 hplain)
  · exact Scalar.spells_of_readInt? hread

end Yaml

namespace Binding

open Decimal Yaml

/-- The ranges of the whole numbers that fields take: two's complement of 32 and of 64 bits, and natural numbers of
8, 16, 32 and 64 bits, of which the last are also the sizes. -/
def fieldRanges : List Range := [.signed 31, .signed 63, .unsigned 8, .unsigned 16, .unsigned 32, .unsigned 64]

private theorem zero_mem_fieldRanges : ∀ r ∈ fieldRanges, r.lo ≤ 0 ∧ 0 ≤ r.hi := by decide

section Texts

variable {r : Range} {text : String} {v : Int}

theorem ScalarType.integer_read_eq_ok_iff :
    (ScalarType.integer r).read text = .ok v ↔ r.read? 10 (Text.trim text.toList) = .ok v := by
  change (r.read? 10 (Text.trim text.toList)).mapError _ = _ ↔ _
  cases r.read? 10 (Text.trim text.toList) with
  | error e => exact ⟨nofun, nofun⟩
  | ok w => rw [Except.mapError, Except.ok.injEq, Except.ok.injEq]

private theorem isNumeral_of_writes {cs : List Char} {sign : Sign} (h : Writes 10 cs sign v) :
    ∀ c ∈ cs, isNumeral c = true := by
  obtain ⟨digits, hdigits, rfl, -⟩ := h
  intro c hc
  rcases List.mem_append.1 hc with hc | hc
  · cases sign with
    | absent => cases hc
    | plus => exact List.mem_singleton.1 hc ▸ rfl
    | minus => exact List.mem_singleton.1 hc ▸ rfl
  · rw [isNumeral, isAlphanum_of_digitValue (hdigits.2 c hc)]
    rfl

private theorem trim_integerText (n : Int) : Text.trim (integerText n).toList = (integerText n).toList := by
  have htrim := trim_of_isNumeral (isNumeral_of_writes (writes_integerText n)) (List.forall_mem_nil _)
    (List.forall_mem_nil _)
  rwa [List.nil_append, List.append_nil] at htrim

/-- `integer r` reads blanks around an integer `v` of the range `r` that is written in decimal. -/
theorem ScalarType.integer_read_iff (hlo : r.lo ≤ 0) (hhi : 0 ≤ r.hi) : (ScalarType.integer r).read text = .ok v ↔
    ∃ before sign digits after, text.toList = before ++ (Sign.text sign ++ digits) ++ after ∧
      (∀ c ∈ before, Text.isBlank c = true) ∧ (∀ c ∈ after, Text.isBlank c = true) ∧
      digits ≠ [] ∧ (∀ c ∈ digits, c.isDigit = true) ∧ (sign = .minus → r.lo < 0) ∧
      v = sign.factor * valueIn 10 digits ∧ r.lo ≤ v ∧ v ≤ r.hi := by
  rw [integer_read_eq_ok_iff, Range.read?_eq_ok_iff hlo hhi (by decide)]
  constructor
  · rintro ⟨sign, ⟨digits, hdigits, htrim, hv⟩, hminus, hrange⟩
    obtain ⟨before, after, htext, hbefore, hafter⟩ := Text.exists_trim text.toList
    rw [htrim] at htext
    obtain ⟨hne, hall⟩ := isDigits_ten_iff.1 hdigits
    exact ⟨before, sign, digits, after, htext, hbefore, hafter, hne, hall, fun h => of_decide_eq_true (hminus h), hv, hrange⟩
  · rintro ⟨before, sign, digits, after, htext, hbefore, hafter, hne, hall, hminus, hv, hrange⟩
    have hwrites : Writes 10 (sign.text ++ digits) sign v := ⟨digits, isDigits_ten_iff.2 ⟨hne, hall⟩, rfl, hv⟩
    rw [htext, trim_of_isNumeral (isNumeral_of_writes hwrites) hbefore hafter]
    exact ⟨sign, hwrites, fun h => decide_eq_true (hminus h), hrange⟩

/-- The text of `n` is read as `n`, or cannot be read if that is not in the range `r`. -/
theorem ScalarType.integer_read_integerText (hlo : r.lo ≤ 0) (hhi : 0 ≤ r.hi) (n : Int) :
    (ScalarType.integer r).read (integerText n) = .ok v ↔ v = n ∧ r.lo ≤ n ∧ n ≤ r.hi := by
  rw [integer_read_eq_ok_iff, trim_integerText, Range.read?_integerText hlo hhi]

end Texts

/-- The text of `n` is stored in a field of the range `r` as `n`, or refused if `r` does not have it. -/
theorem Fields.stores_integer {σ : Type} {r : Range} (hr : r ∈ fieldRanges) {fs : Fields σ} {k : String} {f : Field σ}
    (hf : fs.find? k = some f) {store : Int → σ → σ} (ht : Takes (.integer r) f store) (n : Int) :
    (r.lo ≤ n ∧ n ≤ r.hi → fs.Stores k (integerText n) (store n)) ∧
      (¬(r.lo ≤ n ∧ n ≤ r.hi) → fs.Refuses k (integerText n)) := by
  obtain ⟨hlo, hhi⟩ := zero_mem_fieldRanges r hr
  have hread := fun v => ScalarType.integer_read_integerText (v := v) hlo hhi n
  refine ⟨fun hrange => stores_of_read hf ht ((hread n).2 ⟨rfl, hrange⟩), fun hout => ?_⟩
  cases herror : (ScalarType.integer r).read (integerText n) with
  | error reason => exact refuses_of_read hf ht herror
  | ok v => exact absurd ((hread v).1 herror).2 hout

end Binding

namespace Config

open Yaml Decimal Binding

/-- An entry `k: t` whose value means `n` is read, and its value is the canonical text of `n`. -/
theorem ofText_entryLine_of_int {n : Int} {t k : String} (hsize : Scalar.isWordSized n = true)
    (hplain : Scalar.ofPlain t = .int n) (hk : IsPlain k) (hkey : k.utf8ByteSize ≤ Writer.simpleKeyLimit)
    (hkeyText : Scalar.ofPlain k = .string k) :
    Node.ofText (entryLine k t) = .ok (.mapping [(k, .scalar (integerText n))]) := by
  obtain ⟨sign, hspells⟩ := (Scalar.ofPlain_eq_int_iff hsize).1 hplain
  have hnull : Scalar.ofPlain t ≠ .null := fun hnull => by cases hplain.symm.trans hnull
  have hvalue : ∀ i, Scalar.ofPlain t = .int i → Scalar.isWordSized i = true := by
    intro i hi
    cases hplain.symm.trans hi
    exact hsize
  have hnode := Node.ofText_entryLine hk hkey hkeyText hspells.isPlain hnull hvalue
  rwa [hplain] at hnode

/-- Where the document has a scalar that means `n`, the `node` has the canonical text of `n`. -/
theorem at?_of_scalarMeaning_int {s : String} {node : Node} (hnode : Node.ofText s = .ok node) {p : List Nat} {m : Mark}
    {anchor : Option Nat} {tag : Option String} {t : String} {style : Style} {n : Int}
    (hat : (Document.ofText s).at? p = some (.scalar m anchor tag t style))
    (hmeaning : Yaml.Node.scalarMeaning tag t style = .ok (.int n)) :
    -9223372036854775808 ≤ n ∧ n < 18446744073709551616 ∧ (∃ sign, Scalar.Spells sign t.toList n) ∧
      node.at? p = some (.scalar (integerText n)) := by
  obtain ⟨hscalar, hsize⟩ := Node.at?_of_scalar hnode hat hmeaning nofun
  obtain ⟨hlow, hhigh⟩ := Scalar.isWordSized_iff.1 (hsize n rfl)
  exact ⟨hlow, hhigh, Yaml.Node.spells_of_scalarMeaning hmeaning, hscalar⟩

/-- Integers on their way from a document to a field. The plain scalars that mean `n` are those that `Spells` it, in
decimal or behind a letter for another base, and an entry `k: t` with any of them is read. Wherever a document has a
scalar that means `n`, its configuration has `integerText n`. An entry of that text stores `n` itself in a field of
any of the `fieldRanges`, or, if `n` is not in the range `r`, it is refused and the record left as it was. And
`integer r` reads no text but that of an integer in `r`, written in decimal, as the number that the digits stand
for. -/
theorem integers_of_document :
    (∀ (n : Int) (t : String), -9223372036854775808 ≤ n → n < 18446744073709551616 →
      (Scalar.ofPlain t = .int n ↔ ∃ sign, Scalar.Spells sign t.toList n) ∧
      (Scalar.ofPlain t = .int n → ∀ k, IsPlain k → k.utf8ByteSize ≤ Writer.simpleKeyLimit → Scalar.ofPlain k = .string k →
        Node.ofText (entryLine k t) = .ok (.mapping [(k, .scalar (integerText n))]))) ∧
    (∀ s node, Node.ofText s = .ok node → ∀ p m anchor tag t style n,
      (Document.ofText s).at? p = some (.scalar m anchor tag t style) → Yaml.Node.scalarMeaning tag t style = .ok (.int n) →
        -9223372036854775808 ≤ n ∧ n < 18446744073709551616 ∧ (∃ sign, Scalar.Spells sign t.toList n) ∧
          node.at? p = some (.scalar (integerText n))) ∧
    (∀ r ∈ fieldRanges, ∀ (σ : Type) (fs : Fields σ) k f (store : Int → σ → σ), fs.find? k = some f →
      Takes (.integer r) f store → ∀ n : Int, (r.lo ≤ n ∧ n ≤ r.hi → fs.Stores k (integerText n) (store n)) ∧
        (¬(r.lo ≤ n ∧ n ≤ r.hi) → fs.Refuses k (integerText n))) ∧
    ∀ r ∈ fieldRanges, ∀ text v, (ScalarType.integer r).read text = .ok v ↔
      ∃ before sign digits after, text.toList = before ++ (Sign.text sign ++ digits) ++ after ∧
        (∀ c ∈ before, Text.isBlank c = true) ∧ (∀ c ∈ after, Text.isBlank c = true) ∧
        digits ≠ [] ∧ (∀ c ∈ digits, c.isDigit = true) ∧ (sign = .minus → r.lo < 0) ∧
        v = sign.factor * valueIn 10 digits ∧ r.lo ≤ v ∧ v ≤ r.hi := by
  refine ⟨?_, ?_, ?_, ?_⟩
  · intro n t hlow hhigh
    have hsize : Scalar.isWordSized n = true := Scalar.isWordSized_iff.2 ⟨hlow, hhigh⟩
    exact ⟨Scalar.ofPlain_eq_int_iff hsize, fun hplain k => ofText_entryLine_of_int hsize hplain⟩
  · exact fun s node hnode p m anchor tag t style n => at?_of_scalarMeaning_int hnode
  · exact fun r hr σ fs k f store hf ht n => Fields.stores_integer hr hf ht n
  · intro r hr text v
    obtain ⟨hlo, hhi⟩ := zero_mem_fieldRanges r hr
    exact ScalarType.integer_read_iff hlo hhi

/-- A record of one number of 8 bits. -/
def countFields : Fields Int := .cons "count" (.scalar (.integer (.unsigned 8))) (fun n _ => n) .nil

/-- A count in base 16 and one below zero, of which `countFields` has room for the first. -/
theorem integers_of_document_count :
    Node.ofText (entryLine "count" "0x1F") = .ok (.mapping [("count", .scalar (integerText 31))]) ∧
    (∀ node, Node.ofText "count: -0b11\n" = .ok node → node.at? [0] = some (.scalar (integerText (-3)))) ∧
    countFields.Stores "count" (integerText 31) (fun _ => 31) ∧ countFields.Refuses "count" (integerText (-3)) ∧
    (ScalarType.integer (.unsigned 8)).read " +0255\t" = .ok 255 := by
  obtain ⟨hspelled, hplaced, hfields, htexts⟩ := integers_of_document
  have hkey : IsPlain "count" := ⟨by decide, by decide⟩
  have hstored := hfields (.unsigned 8) (by decide) Int countFields "count" _ (fun n _ => n) rfl (.always _)
  refine ⟨?_, fun node hnode => ?_, (hstored 31).1 (by decide), (hstored (-3)).2 (by decide), ?_⟩
  · exact (hspelled 31 "0x1F" (by decide) (by decide)).2 rfl "count" hkey (by decide) rfl
  · have hline : "count: -0b11\n" = entryLine "count" "-0b11" := by decide
    obtain ⟨_, _, m, hdocument⟩ := Document.ofText_entryLine (t := "-0b11") hkey (by decide) ⟨by decide, by decide⟩
    rw [← hline] at hdocument
    have hat : (Document.ofText "count: -0b11\n").at? [0] = some (.scalar m none none "-0b11" .plain) := by
      rw [hdocument]
      rfl
    exact (hplaced _ node hnode [0] m none none "-0b11" .plain (-3) hat rfl).2.2.2
  · exact (htexts (.unsigned 8) (by decide) " +0255\t" 255).2
      ⟨[' '], .plus, ['0', '2', '5', '5'], ['\t'], by decide, List.all_eq_true.1 rfl, List.all_eq_true.1 rfl,
        by decide, List.all_eq_true.1 rfl, nofun, by decide, by decide, by decide⟩

end Config

end DatasetLint
