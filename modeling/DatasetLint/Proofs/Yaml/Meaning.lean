import DatasetLint.Proofs.Decimal.Layout
import DatasetLint.Proofs.Decimal.Literal
import DatasetLint.Yaml.Scalar

/-!
# The text of a scalar means the scalar

A scalar that is no text is shown in one of the forms in which it can be written plain: that text is read as
the same scalar. So the text that a plain scalar is shown with means what the scalar means.
-/

namespace DatasetLint.Yaml

open Decimal

namespace Scalar

/-! ## Words -/

/-- The text `cs` is no word `w` that begins otherwise. -/
theorem ofList_beq_eq_false {cs : List Char} {w : String} (h : cs.head? ≠ w.toList.head?) :
    (String.ofList cs == w) = false := by
  refine beq_eq_false_iff_ne.2 fun heq => h ?_
  rw [← heq, String.toList_ofList]

/-- The text `cs` begins like a number: with a digit or a minus sign. -/
def BeginsNumber (cs : List Char) : Prop := ∃ c r, cs = c :: r ∧ (c.isDigit = true ∨ c = '-')

private theorem BeginsNumber.head?_ne {cs : List Char} (h : BeginsNumber cs) {c : Char}
    (hc : c.isDigit = false ∧ c ≠ '-') : cs.head? ≠ some c := by
  obtain ⟨d, r, rfl, hd⟩ := h
  intro heq
  cases heq
  rcases hd with hd | hd
  · rw [hc.1] at hd
    cases hd
  · exact hc.2 hd

/-- A number is neither empty nor one of the words, so `ofPlain` tries the kinds of numbers. -/
theorem ofPlain_of_beginsNumber {cs : List Char} (h : BeginsNumber cs) : ofPlain (String.ofList cs) =
    match readInt? (String.ofList cs) with
    | some i => .int i
    | none =>
      if isZeroPadded cs then .string (String.ofList cs)
      else
        match readFloat? (String.ofList cs) with
        | some v => .float v
        | none => .string (String.ofList cs) := by
  have hempty : (String.ofList cs).isEmpty = false := by
    obtain ⟨c, r, rfl, -⟩ := h
    rw [← Bool.not_eq_true, String.isEmpty_iff]
    exact fun heq => List.cons_ne_nil c r (by rw [← String.toList_ofList (l := c :: r), heq]; rfl)
  -- no word begins with a digit or a minus sign
  have hword : ∀ {w : String} {c : Char}, w.toList.head? = some c → c.isDigit = false ∧ c ≠ '-' →
      (String.ofList cs == w) = false := fun hw hc => ofList_beq_eq_false (hw ▸ h.head?_ne hc)
  have hnull : isNullWord (String.ofList cs) = false := by
    rw [isNullWord, hword (c := '~') rfl (by decide), hword (c := 'n') rfl (by decide),
      hword (c := 'N') rfl (by decide), hword (c := 'N') rfl (by decide)]
    rfl
  have hbool : readBool? (String.ofList cs) = none := by
    rw [readBool?, hword (c := 't') rfl (by decide), hword (c := 'T') rfl (by decide),
      hword (c := 'T') rfl (by decide), hword (c := 'f') rfl (by decide), hword (c := 'F') rfl (by decide),
      hword (c := 'F') rfl (by decide)]
    rfl
  rw [ofPlain, hempty, hnull, hbool, String.toList_ofList]
  cases readInt? (String.ofList cs) <;> rfl

/-! ## Signs and leading zeros -/

/-- What stands behind a plus sign, or all. -/
def dropPlus : List Char → List Char
  | '+' :: cs => cs
  | cs => cs

/-- What stands behind a sign, or all. -/
def dropSign : List Char → List Char
  | '-' :: cs => cs
  | '+' :: cs => cs
  | cs => cs

/-- A zero and more digits. -/
def isPadded : List Char → Bool
  | '0' :: cs@(_ :: _) => cs.all Char.isDigit
  | _ => false

theorem isZeroPadded_eq (cs : List Char) : isZeroPadded cs = isPadded (dropSign cs) := rfl

private theorem ne_sign_of_isDigit {c : Char} (hc : c.isDigit = true) : c ≠ '+' ∧ c ≠ '-' := by
  constructor <;> (rintro rfl; cases hc)

variable {c : Char} {cs : List Char}

private theorem dropPlus_of_ne (hc : c ≠ '+') : dropPlus (c :: cs) = c :: cs := by
  rw [dropPlus]
  exact fun _ h => hc (List.cons.inj h).1

private theorem dropSign_of_isDigit (hc : c.isDigit = true) : dropSign (c :: cs) = c :: cs := by
  obtain ⟨hplus, hminus⟩ := ne_sign_of_isDigit hc
  rw [dropSign]
  · exact fun _ h => hminus (List.cons.inj h).1
  · exact fun _ h => hplus (List.cons.inj h).1

private theorem isPadded_natDigits (n : Nat) : isPadded (natDigits n) = false := by
  rw [isPadded.eq_def]
  split
  · rename_i heq
    by_cases hn : n = 0
    · subst hn
      cases heq
    · exact absurd (by rw [heq]; rfl) (head?_natDigits_ne_zero hn)
  · rfl

/-- A number with something other than digits, `d`, behind its first is not padded. -/
theorem isPadded_eq_false {d : Char} (hd : d.isDigit = false) (h : d ∈ cs) : isPadded (c :: cs) = false := by
  rw [isPadded.eq_def]
  split
  · rename_i heq
    cases heq
    exact List.all_eq_false.2 ⟨d, h, by rw [hd]; exact Bool.false_ne_true⟩
  · rfl

/-! ## Integers -/

theorem readNatural?_eq (r : Range) (cs : List Char) : readNatural? r cs =
    (readRadix? r false (dropPlus cs)).or
      (if ((dropPlus cs).head?.any fun c => c == '+' || c == '-') || isZeroPadded cs then none
        else (r.read? 10 (dropPlus cs)).toOption) := rfl

/-- The digits behind `0x`, `0o` or `0b` of a number with a minus sign. -/
def readNegativeRadix? (r : Range) : List Char → Option Int
  | '-' :: b => readRadix? r true b
  | _ => none

theorem readNegative?_eq (r : Range) (cs : List Char) : readNegative? r cs =
    (readNegativeRadix? r cs).or (if isZeroPadded cs then none else (r.read? 10 cs).toOption) := rfl

/-- No base is announced where no character of `cs` is a letter for one. -/
theorem readRadix?_eq_none (r : Range) (negative : Bool) (h : ∀ c ∈ cs, radixOf? c = none) :
    readRadix? r negative cs = none := by
  rw [readRadix?.eq_def]
  split
  · rename_i x ds
    rw [h x (List.mem_cons_of_mem _ (List.mem_cons_self ..))]
  · rfl

private theorem readNegativeRadix?_eq_none (r : Range) (h : ∀ c ∈ cs, radixOf? c = none) :
    readNegativeRadix? r cs = none := by
  rw [readNegativeRadix?.eq_def]
  split
  · exact readRadix?_eq_none r true fun c hc => h c (List.mem_cons_of_mem _ hc)
  · rfl

theorem radixOf?_of_isDigit (hc : c.isDigit = true) : radixOf? c = none := by
  rw [radixOf?.eq_def]
  split
  · cases hc
  · cases hc
  · cases hc
  · rfl

/-- What begins with a digit `c`, if no base is announced, is read in decimal. -/
theorem readNatural?_of_isDigit (r : Range) (hc : c.isDigit = true) (h : ∀ d ∈ c :: cs, radixOf? d = none) :
    readNatural? r (c :: cs) = if isPadded (c :: cs) then none else (r.read? 10 (c :: cs)).toOption := by
  obtain ⟨hplus, hminus⟩ := ne_sign_of_isDigit hc
  have hsign : ((c :: cs).head?.any fun c => c == '+' || c == '-') = false := by
    rw [List.head?_cons, Option.any_some, beq_eq_false_iff_ne.2 hplus, beq_eq_false_iff_ne.2 hminus]
    rfl
  rw [readNatural?_eq, dropPlus_of_ne hplus, readRadix?_eq_none r false h, hsign, Bool.false_or, isZeroPadded_eq,
    dropSign_of_isDigit hc, Option.none_or]

/-- A natural number has no minus sign. -/
theorem readNatural?_minus (r : Range) (h : ∀ d ∈ cs, radixOf? d = none) : readNatural? r ('-' :: cs) = none := by
  have hradix : ∀ d ∈ '-' :: cs, radixOf? d = none := List.forall_mem_cons.2 ⟨rfl, h⟩
  rw [readNatural?_eq, dropPlus_of_ne (by decide), readRadix?_eq_none r false hradix]
  rfl

private theorem readNegative?_of_radix (r : Range) (h : ∀ d ∈ cs, radixOf? d = none) :
    readNegative? r cs = if isPadded (dropSign cs) then none else (r.read? 10 cs).toOption := by
  rw [readNegative?_eq, readNegativeRadix?_eq_none r h, isZeroPadded_eq, Option.none_or]

/-- An integer `i` of a document is what its digits say. -/
theorem readInt?_integerText {i : Int} (h : isWordSized i = true) : readInt? (integerText i) = some i := by
  rw [isWordSized, Bool.and_eq_true, decide_eq_true_eq, decide_eq_true_eq] at h
  have hlow : -(9223372036854775808 : Int) ≤ i := h.1
  have hhigh : i < 18446744073709551616 := h.2
  have hradix : ∀ c ∈ natDigits i.natAbs, radixOf? c = none := fun c hc =>
    radixOf?_of_isDigit (isDigit_of_mem_natDigits hc)
  rw [readInt?]
  by_cases hneg : i < 0
  · have hread := (Range.read?_integerText (r := .signed 63) (by decide) (by decide) i i).2
      ⟨rfl, hlow, by change i ≤ (9223372036854775807 : Int); omega⟩
    -- the range of natural numbers is tried first and refuses the sign
    have hpadded : isPadded (dropSign ('-' :: natDigits i.natAbs)) = false := isPadded_natDigits i.natAbs
    rw [toList_integerText, if_pos hneg] at hread ⊢
    rw [readNatural?_minus _ hradix, readNegative?_of_radix _ (List.forall_mem_cons.2 ⟨rfl, hradix⟩), hread, hpadded]
    rfl
  · have hread := (Range.read?_integerText (r := .unsigned 64) (by decide) (by decide) i i).2
      ⟨rfl, Int.not_lt.1 hneg, by change i ≤ (18446744073709551615 : Int); omega⟩
    have hpadded := isPadded_natDigits i.natAbs
    obtain ⟨c, cs, hcs⟩ := List.exists_cons_of_ne_nil (natDigits_ne_nil i.natAbs)
    have hc : c.isDigit = true := isDigit_of_mem_natDigits (hcs ▸ List.mem_cons_self ..)
    rw [toList_integerText, if_neg hneg] at hread ⊢
    rw [hcs] at hradix hread hpadded ⊢
    rw [readNatural?_of_isDigit _ hc hradix, hread, hpadded]
    rfl

private theorem beginsNumber_integerText (i : Int) : BeginsNumber (integerText i).toList := by
  rw [toList_integerText]
  split
  · exact ⟨_, _, rfl, .inr rfl⟩
  · obtain ⟨c, cs, hcs⟩ := List.exists_cons_of_ne_nil (natDigits_ne_nil i.natAbs)
    exact ⟨c, cs, hcs, .inl (isDigit_of_mem_natDigits (hcs ▸ List.mem_cons_self ..))⟩

private theorem ofPlain_integerText {i : Int} (h : isWordSized i = true) : ofPlain (integerText i) = .int i := by
  have hplain := ofPlain_of_beginsNumber (beginsNumber_integerText i)
  rw [String.ofList_toList, readInt?_integerText h] at hplain
  exact hplain

/-! ## Floats -/

/-- The spelling `s` of a number with a point or a power: a digit first, and something behind it that is none. -/
theorem spelling_cons {s : Spelling} (h : s.IsProper) (hfractional : s.fraction ≠ [] ∨ s.power ≠ none) :
    ∃ c r, s.text = c :: r ∧ c.isDigit = true ∧ ∃ d ∈ r, d.isDigit = false := by
  obtain ⟨c, cs, hcs⟩ := List.exists_cons_of_ne_nil h.whole_ne_nil
  refine ⟨c, cs ++ (Spelling.pointed s.fraction ++ Spelling.powered s.power), ?_,
    h.whole_digits c (hcs ▸ List.mem_cons_self ..), ?_⟩
  · rw [Spelling.text, hcs]
    rfl
  · cases hf : s.fraction with
    | cons d ds =>
      exact ⟨'.', List.mem_append_right _ (List.mem_append_left _ (List.mem_cons_self ..)), rfl⟩
    | nil =>
      cases hp : s.power with
      | none => exact absurd (hfractional.resolve_left fun hne => hne hf) fun hne => hne hp
      | some k => exact ⟨'e', List.mem_append_right _ (List.mem_append_right _ (List.mem_cons_self ..)), rfl⟩

private theorem radixOf?_of_mem_text {s : Spelling} (h : s.IsProper) : ∀ c ∈ s.text, radixOf? c = none := by
  intro c hc
  rcases Spelling.mem_text h hc with hdigit | rfl | rfl | rfl
  · exact radixOf?_of_isDigit hdigit
  · rfl
  · rfl
  · rfl

private theorem toOption_read?_eq_none (r : Range) {c d : Char} {cs : List Char} (hd : d ∈ cs)
    (hdigit : d.isDigit = false) :
    (r.read? 10 (c :: cs)).toOption = none := by
  cases hread : r.read? 10 (c :: cs) with
  | error e => rfl
  | ok v =>
    have h := Range.isSome_digitValue_of_read? hread d hd
    rw [isSome_digitValue_ten, hdigit] at h
    cases h

/-- A number as a sign and the spelling `cs`. -/
def signed (negative : Bool) (cs : List Char) : List Char := if negative then '-' :: cs else cs

section Signed

variable {s : Spelling} (h : s.IsProper) (hfractional : s.fraction ≠ [] ∨ s.power ≠ none) (negative : Bool)

include h hfractional

/-- A number with a point or a power is no integer. -/
theorem readInt?_signed : readInt? (String.ofList (signed negative s.text)) = none := by
  obtain ⟨c, cs, hcs, hc, d, hd, hdigit⟩ := spelling_cons h hfractional
  have hradix := radixOf?_of_mem_text h
  rw [readInt?, String.toList_ofList]
  cases negative with
  | false =>
    have hread : ∀ r : Range, (r.read? 10 (c :: cs)).toOption = none := fun r => toOption_read?_eq_none r hd hdigit
    have hpadded : isPadded (dropSign (c :: cs)) = false := by
      rw [dropSign_of_isDigit hc]
      exact isPadded_eq_false hdigit hd
    rw [hcs] at hradix
    -- four ranges are tried, and each of them meets the character that is no digit
    simp only [signed, hcs, Bool.false_eq_true, if_false, readNatural?_of_isDigit _ hc hradix, readNegative?_of_radix _ hradix,
      hread, hpadded, ite_self]
    rfl
  | true =>
    have hread : ∀ r : Range, (r.read? 10 ('-' :: c :: cs)).toOption = none := fun r =>
      toOption_read?_eq_none r (List.mem_cons_of_mem _ hd) hdigit
    rw [hcs] at hradix
    have hradix' : ∀ d ∈ '-' :: c :: cs, radixOf? d = none := List.forall_mem_cons.2 ⟨rfl, hradix⟩
    simp only [signed, hcs, if_true, readNatural?_minus _ hradix, readNegative?_of_radix _ hradix', hread, ite_self]
    rfl

private theorem isZeroPadded_signed : isZeroPadded (signed negative s.text) = false := by
  obtain ⟨c, cs, hcs, hc, d, hd, hdigit⟩ := spelling_cons h hfractional
  have hpadded : isPadded (c :: cs) = false := isPadded_eq_false hdigit hd
  rw [isZeroPadded_eq, hcs]
  cases negative with
  | false =>
    change isPadded (dropSign (c :: cs)) = false
    rw [dropSign_of_isDigit hc, hpadded]
  | true => exact hpadded

private theorem beginsNumber_signed : BeginsNumber (signed negative s.text) := by
  obtain ⟨c, cs, hcs, hc, -⟩ := spelling_cons h hfractional
  rw [hcs]
  cases negative with
  | false => exact ⟨c, cs, rfl, .inl hc⟩
  | true => exact ⟨'-', c :: cs, rfl, .inr rfl⟩

end Signed

private theorem isInfinityWord_eq_false (h : cs.head? ≠ some '.') : isInfinityWord cs = false := by
  have hword : ∀ {w : List Char}, w.head? = some '.' → (cs == w) = false := fun hw =>
    beq_eq_false_iff_ne.2 fun heq => h (heq ▸ hw)
  rw [isInfinityWord, hword rfl, hword rfl, hword rfl]
  rfl

private theorem readFloat?_eq (cs : List Char) : readFloat? (String.ofList cs) =
    if cs.head? == some '+' && ((dropPlus cs).head?.any fun c => c == '+' || c == '-') then none
    else if isInfinityWord (dropPlus cs) then some (.infinity false)
    else if cs.head? == some '-' && isInfinityWord (cs.drop 1) then some (.infinity true)
    else if cs == ".nan".toList || cs == ".NaN".toList || cs == ".NAN".toList then some .nan
    else (binary64.read? (dropPlus cs)).toOption.filter (·.isFinite) := by
  rw [readFloat?, String.toList_ofList]
  rfl

/-- A number that is neither infinite nor a NaN by a word is what `binary64` reads. -/
theorem readFloat?_of_beginsNumber (h : BeginsNumber cs)
    (hrest : cs.head? = some '-' → (cs.drop 1).head? ≠ some '.') :
    readFloat? (String.ofList cs) = (binary64.read? cs).toOption.filter (·.isFinite) := by
  have hplus : cs.head? ≠ some '+' := h.head?_ne (by decide)
  have hpoint : cs.head? ≠ some '.' := h.head?_ne (by decide)
  have hword : ∀ {w : List Char}, w.head? = some '.' → (cs == w) = false := fun hw =>
    beq_eq_false_iff_ne.2 fun heq => hpoint (heq ▸ hw)
  have hdrop : dropPlus cs = cs := by
    obtain ⟨c, r, rfl, -⟩ := h
    exact dropPlus_of_ne fun heq => hplus (by rw [heq]; rfl)
  have hinfinity : (cs.head? == some '-' && isInfinityWord (cs.drop 1)) = false := by
    by_cases hminus : cs.head? = some '-'
    · rw [isInfinityWord_eq_false (hrest hminus), Bool.and_false]
    · rw [beq_eq_false_iff_ne.2 hminus, Bool.false_and]
  rw [readFloat?_eq, hdrop, isInfinityWord_eq_false hpoint, hinfinity, hword rfl, hword rfl, hword rfl,
    beq_eq_false_iff_ne.2 hplus]
  rfl

theorem read?_signed {f : Format} {s : Spelling} (hs : s.IsProper) (negative : Bool) :
    f.read? (signed negative s.text) = .ok ((s.numeral negative).toFloating f) := by
  obtain ⟨c, cs, hcs⟩ := List.exists_cons_of_ne_nil hs.whole_ne_nil
  have hc : c.isDigit = true := hs.whole_digits c (hcs ▸ List.mem_cons_self ..)
  have hsplit : splitSign (signed negative s.text) = (negative, s.text) := by
    cases negative with
    | true => rfl
    | false =>
      rw [signed, if_neg Bool.false_ne_true, Spelling.text, hcs]
      exact splitSign_of_isDigit hc
  have hne : (signed negative s.text).isEmpty = false := by
    rw [List.isEmpty_eq_false_iff, signed, Spelling.text, hcs]
    split <;> exact List.cons_ne_nil _ _
  rw [Format.read?_eq, hsplit, hne, Spelling.readUnsigned?_text hs]
  rfl

/-- A finite value as it is written in the layout `l` is read as that value. -/
theorem ofPlain_render (l : Layout) (negative : Bool) {m : Nat} {e : Int} (h : IsDouble m e) :
    ofPlain (l.render binary64 (.finite negative m e)) = .float (.finite negative m e) := by
  obtain ⟨s, hs, hfractional, htext, hvalue⟩ := exists_spelling_render l negative h
  have hspelled : l.render binary64 (.finite negative m e) = String.ofList (signed negative s.text) := by
    rw [← String.toList_inj, htext, String.toList_ofList]
    rfl
  have hbegins := beginsNumber_signed hs hfractional negative
  -- behind a minus sign stands a digit, so the text is not a word for an infinity
  have hrest : (signed negative s.text).head? = some '-' → ((signed negative s.text).drop 1).head? ≠ some '.' := by
    obtain ⟨c, cs, hcs, hc, -⟩ := spelling_cons hs hfractional
    rw [hcs]
    cases negative with
    | false =>
      intro hminus
      cases hminus
      cases hc
    | true =>
      intro _ hpoint
      cases hpoint
      cases hc
  rw [hspelled, ofPlain_of_beginsNumber hbegins, readInt?_signed hs hfractional, isZeroPadded_signed hs hfractional,
    readFloat?_of_beginsNumber hbegins hrest, read?_signed hs, hvalue]
  rfl

/-! ## All scalars -/

/-- A scalar as documents have them: integers of 64 bits, and floats of the format. -/
def IsRead : Scalar → Prop
  | int i => isWordSized i = true
  | float v => v.IsDouble
  | _ => True

def isText : Scalar → Bool
  | string _ => true
  | _ => false

/-- The text of a scalar `a` that is no text itself has `a` for its meaning. -/
theorem ofPlain_text {a : Scalar} (h : a.IsRead) (htext : a.isText = false) : ofPlain a.text = a := by
  cases a with
  | null => rfl
  | bool b => cases b <;> decide +kernel
  | int i => exact ofPlain_integerText h
  | float v =>
    cases v with
    | nan => decide +kernel
    | infinity negative => cases negative <;> decide +kernel
    | finite negative m e => exact ofPlain_render .document negative h
  | string t => cases htext

theorem isDouble_of_readFloat? {t : String} {v : Floating} (h : readFloat? t = some v) : v.IsDouble := by
  rw [← String.ofList_toList (s := t), readFloat?_eq] at h
  split at h
  · cases h
  · split at h
    · cases h
      trivial
    · split at h
      · cases h
        trivial
      · split at h
        · cases h
          trivial
        · obtain ⟨hread, -⟩ := Option.filter_eq_some_iff.1 h
          cases hr : binary64.read? (dropPlus t.toList) with
          | error e => rw [hr] at hread; cases hread
          | ok w =>
            rw [hr] at hread
            cases hread
            exact isDouble_of_read? hr

/-- What the plain scalar `t` can be. -/
theorem ofPlain_cases (t : String) :
    (ofPlain t = .null ∧ (t.isEmpty || isNullWord t) = true) ∨ (t.isEmpty || isNullWord t) = false ∧
      ((∃ b, ofPlain t = .bool b) ∨ (∃ i, ofPlain t = .int i) ∨
        (∃ v, readFloat? t = some v ∧ ofPlain t = .float v) ∨ ofPlain t = .string t) := by
  rw [ofPlain]
  cases (t.isEmpty || isNullWord t) with
  | true => exact .inl ⟨rfl, rfl⟩
  | false =>
    refine .inr ⟨rfl, ?_⟩
    rw [if_neg Bool.false_ne_true]
    split
    · exact .inl ⟨_, rfl⟩
    · exact .inr (.inl ⟨_, rfl⟩)
    · split
      · exact .inr (.inr (.inr rfl))
      · split
        · exact .inr (.inr (.inl ⟨_, ‹_›, rfl⟩))
        · exact .inr (.inr (.inr rfl))

theorem ofPlain_eq_null_iff {t : String} : ofPlain t = .null ↔ (t.isEmpty || isNullWord t) = true := by
  rcases ofPlain_cases t with ⟨h, hnull⟩ | ⟨hnull, ⟨b, h⟩ | ⟨i, h⟩ | ⟨v, -, h⟩ | h⟩ <;> simp [h, hnull]

/-- A plain scalar `t` that is a text is that text. -/
theorem eq_of_ofPlain_eq_string {t u : String} (h : ofPlain t = .string u) : u = t := by
  rcases ofPlain_cases t with ⟨h', -⟩ | ⟨-, ⟨b, h'⟩ | ⟨i, h'⟩ | ⟨v, -, h'⟩ | h'⟩
  all_goals cases h'.symm.trans h
  rfl

/-- The meaning of the plain scalar `t` is a scalar as documents have them, if its integer is not too large. -/
theorem isRead_ofPlain {t : String} (h : ∀ i, ofPlain t = .int i → isWordSized i = true) : (ofPlain t).IsRead := by
  rcases ofPlain_cases t with ⟨h', -⟩ | ⟨-, ⟨b, h'⟩ | ⟨i, h'⟩ | ⟨v, hv, h'⟩ | h'⟩
  · rw [h']
    trivial
  · rw [h']
    trivial
  · rw [h']
    exact h i h'
  · rw [h']
    exact isDouble_of_readFloat? hv
  · rw [h']
    trivial

/-! ## Written form -/

/-- A scalar `a` is a text, or it is none. -/
theorem text_or_not (a : Scalar) : (∃ t, a = .string t) ∨ a.isText = false := by
  cases a with
  | string t => exact .inl ⟨t, rfl⟩
  | null => exact .inr rfl
  | bool b => exact .inr rfl
  | int i => exact .inr rfl
  | float v => exact .inr rfl

/-- A text keeps its characters, and of the other scalars those keep them that are the text of some scalar `a`. -/
theorem text_ofPlain_eq_iff {t : String} (h : (ofPlain t).IsRead) :
    (ofPlain t).text = t ↔ (ofPlain t).isText = true ∨ ∃ a : Scalar, a.IsRead ∧ a.isText = false ∧ a.text = t := by
  constructor
  · intro heq
    cases htext : (ofPlain t).isText with
    | true => exact .inl rfl
    | false => exact .inr ⟨_, h, htext, heq⟩
  · rintro (htext | ⟨a, ha, htext, rfl⟩)
    · rcases (ofPlain t).text_or_not with ⟨u, hu⟩ | hnot
      · rw [hu]
        exact eq_of_ofPlain_eq_string hu
      · cases htext.symm.trans hnot
    · rw [ofPlain_text ha htext]

/-- The text of a plain scalar's meaning means the same. -/
theorem ofPlain_text_ofPlain {t : String} (h : (ofPlain t).IsRead) : ofPlain (ofPlain t).text = ofPlain t := by
  rcases (ofPlain t).text_or_not with ⟨u, hu⟩ | hnot
  · obtain rfl := eq_of_ofPlain_eq_string hu
    rw [hu]
    exact hu
  · exact ofPlain_text h hnot

end Scalar

end DatasetLint.Yaml
