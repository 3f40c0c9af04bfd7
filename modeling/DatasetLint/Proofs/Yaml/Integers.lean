import DatasetLint.Proofs.Decimal.Literal
import DatasetLint.Proofs.Yaml.Meaning

/-!
# Integers in documents

A plain scalar is an integer just if it is a sign or none, and decimal digits without a leading zero, or a `0x`, `0o`
or `0b` and digits in the base that the letter announces. The several ranges in which it is tried one after the other
do not show: within the integers that fit a document it is read as the number that its digits stand for.
-/

namespace DatasetLint.Yaml

open Decimal

namespace Scalar

/-- The text of an integer in a document, which `sign` begins. -/
inductive Spells (sign : Sign) : List Char → Int → Prop
  | decimal {digits : List Char} (hdigits : IsDigits 10 digits) (hunpadded : digits.head? = some '0' → digits = ['0']) :
    Spells sign (sign.text ++ digits) (sign.factor * valueIn 10 digits)
  | inRadix {letter : Char} {radix : Nat} {digits : List Char} (hletter : radixOf? letter = some radix)
    (hdigits : IsDigits radix digits) :
    Spells sign (sign.text ++ '0' :: letter :: digits) (sign.factor * valueIn radix digits)

variable {r : Range} {sign : Sign} {cs digits : List Char} {v : Int}

/-! ## Signs -/

theorem head?_any_sign_iff :
    (digits.head?.any fun c => c == '+' || c == '-') = false ↔ Sign.ofText digits = .absent := by
  cases digits with
  | nil => exact iff_of_true rfl rfl
  | cons c ds =>
    rw [List.head?_cons, Option.any_some, Bool.or_eq_false_iff, beq_eq_false_iff_ne, beq_eq_false_iff_ne]
    constructor
    · rintro ⟨hplus, hminus⟩
      exact Sign.ofText.eq_3 _ (fun _ h => hplus (List.cons.inj h).1) fun _ h => hminus (List.cons.inj h).1
    · intro h
      constructor <;> (rintro rfl; cases h)

private theorem dropSign_append (h : Sign.ofText digits = .absent) : dropSign (sign.text ++ digits) = digits := by
  cases sign with
  | absent =>
    change dropSign digits = digits
    rw [dropSign.eq_def]
    split
    · cases h
    · cases h
    · rfl
  | plus => rfl
  | minus => rfl

private theorem dropPlus_append (h : Sign.ofText digits = .absent) (hsign : sign ≠ .minus) :
    dropPlus (sign.text ++ digits) = digits := by
  cases sign with
  | absent =>
    change dropPlus digits = digits
    rw [dropPlus.eq_def]
    split
    · cases h
    · rfl
  | plus => rfl
  | minus => exact absurd rfl hsign

/-- Before `dropPlus cs` stands a plus sign or nothing. -/
theorem exists_dropPlus (cs : List Char) : ∃ sign : Sign, sign ≠ .minus ∧ cs = sign.text ++ dropPlus cs := by
  rw [dropPlus.eq_def]
  split
  · exact ⟨.plus, nofun, rfl⟩
  · exact ⟨.absent, nofun, rfl⟩

/-! ## Leading zeros -/

/-- Digits are padded if they begin with a zero and are more than that. -/
theorem isPadded_eq_false_iff (h : IsDigits 10 digits) :
    isPadded digits = false ↔ (digits.head? = some '0' → digits = ['0']) := by
  have hall := (isDigits_ten_iff.1 h).2
  cases digits with
  | nil => exact iff_of_true rfl nofun
  | cons c ds =>
    by_cases hmore : c = '0' ∧ ds ≠ []
    · obtain ⟨rfl, hne⟩ := hmore
      obtain ⟨d, ds, rfl⟩ := List.exists_cons_of_ne_nil hne
      have hds : (d :: ds).all Char.isDigit = true := List.all_eq_true.2 fun c hc => hall c (List.mem_cons_of_mem _ hc)
      rw [isPadded, hds]
      exact iff_of_false Bool.noConfusion fun h => absurd (List.cons.inj (h rfl)).2 (List.cons_ne_nil d ds)
    · refine iff_of_true ?_ fun hzero => ?_
      · rw [isPadded.eq_def]
        split
        · rename_i heq
          cases heq
          exact absurd ⟨rfl, List.cons_ne_nil _ _⟩ hmore
        · rfl
      · have hc : c = '0' := Option.some.inj hzero
        rw [hc, not_not.1 fun hne => hmore ⟨hc, hne⟩]

/-! ## One range -/

/-- Decimal digits announce no base. -/
theorem readRadix?_of_isDigits (negative : Bool) (h : IsDigits 10 digits) : readRadix? r negative digits = none :=
  readRadix?_eq_none r negative fun c hc => radixOf?_of_isDigit ((isDigits_ten_iff.1 h).2 c hc)

theorem toOption_eq_some_iff {α ε : Type} {x : Except ε α} {a : α} : x.toOption = some a ↔ x = .ok a := by
  cases x with
  | error e => exact ⟨nofun, nofun⟩
  | ok b => rw [Except.toOption, Option.some.injEq, Except.ok.injEq]

private theorem radix_pos {letter : Char} {radix : Nat} (h : radixOf? letter = some radix) : 0 < radix := by
  rw [radixOf?.eq_def] at h
  split at h <;> cases h <;> decide

section

variable (hlo : r.lo ≤ 0) (hhi : 0 ≤ r.hi)

include hlo hhi

/-- The digits `cs` behind `sign`, which is given and not in their text. -/
theorem read?_behind (sign : Sign) {radix : Nat} (hradix : 0 < radix) (hcs : Sign.ofText cs = .absent) :
    r.read? radix (sign.text ++ cs) = .ok v ↔ IsDigits radix cs ∧ (sign = .minus → r.hasSign = true) ∧
      v = sign.factor * valueIn radix cs ∧ r.lo ≤ v ∧ v ≤ r.hi := by
  rw [Range.read?_eq_ok_iff hlo hhi hradix]
  constructor
  · rintro ⟨sign', hwrites, hhas, hrange⟩
    have heq : sign = sign' := (Sign.ofText_append sign hcs).symm.trans hwrites.sign_eq
    subst heq
    obtain ⟨digits, hdigits, htext, hv⟩ := hwrites
    rw [List.append_cancel_left htext]
    exact ⟨hdigits, hhas, hv, hrange⟩
  · rintro ⟨hdigits, hhas, hv, hrange⟩
    exact ⟨sign, ⟨cs, hdigits, rfl, hv⟩, hhas, hrange⟩

/-- Behind `0` and a letter, digits of the base that the letter announces are read, and no second sign. -/
theorem readRadix?_eq_some_iff (sign : Sign) (hsign : sign ≠ .plus) : readRadix? r (sign == .minus) cs = some v ↔
    ∃ letter radix digits, cs = '0' :: letter :: digits ∧ radixOf? letter = some radix ∧ IsDigits radix digits ∧
      (sign = .minus → r.hasSign = true) ∧ v = sign.factor * valueIn radix digits ∧ r.lo ≤ v ∧ v ≤ r.hi := by
  -- a plus sign was taken away before, so only a minus sign is put in front
  have htext : ∀ ds : List Char, (if (sign == .minus) = true then '-' :: ds else ds) = sign.text ++ ds := by
    intro ds
    cases sign with
    | absent => rfl
    | plus => exact absurd rfl hsign
    | minus => rfl
  constructor
  · intro h
    rw [readRadix?.eq_def] at h
    split at h
    · rename_i letter ds
      split at h
      · cases h
      · rename_i radix hletter
        split at h
        · cases h
        · rename_i hbare
          have hds : Sign.ofText ds = .absent := head?_any_sign_iff.1 (Bool.eq_false_iff.2 hbare)
          rw [htext, toOption_eq_some_iff, read?_behind hlo hhi sign (radix_pos hletter) hds] at h
          exact ⟨letter, radix, ds, rfl, hletter, h⟩
    · cases h
  · rintro ⟨letter, radix, digits, rfl, hletter, hdigits, h⟩
    rw [readRadix?, hletter]
    dsimp only
    rw [head?_any_sign_iff.2 hdigits.ofText_eq, if_neg Bool.false_ne_true, htext, toOption_eq_some_iff,
      read?_behind hlo hhi sign (radix_pos hletter) hdigits.ofText_eq]
    exact ⟨hdigits, h⟩

/-- What `v` is read without a minus sign. -/
theorem readNatural?_eq_some_iff : readNatural? r cs = some v ↔
    ∃ sign, sign ≠ .minus ∧ Spells sign cs v ∧ r.lo ≤ v ∧ v ≤ r.hi := by
  have hfactor : ∀ {sign : Sign}, sign ≠ .minus → sign.factor = Sign.absent.factor := by
    intro sign hsign
    cases sign with
    | absent => rfl
    | plus => rfl
    | minus => exact absurd rfl hsign
  rw [readNatural?_eq, Option.or_eq_some_iff]
  constructor
  · intro h
    obtain ⟨sign, hsign, hcs⟩ := exists_dropPlus cs
    -- a base is tried first; where none is announced the number is decimal and must not be padded
    rcases h with hradix | ⟨-, hdecimal⟩
    · obtain ⟨letter, radix, digits, htext, hletter, hdigits, -, hv, hrange⟩ :=
        (readRadix?_eq_some_iff hlo hhi .absent nofun).1 hradix
      have hspells : Spells sign (sign.text ++ '0' :: letter :: digits) (sign.factor * valueIn radix digits) :=
        .inRadix hletter hdigits
      rw [← htext, ← hcs, hfactor hsign, ← hv] at hspells
      exact ⟨sign, hsign, hspells, hrange⟩
    · rw [Option.ite_none_left_eq_some, Bool.not_eq_true, Bool.or_eq_false_iff, head?_any_sign_iff,
        toOption_eq_some_iff] at hdecimal
      obtain ⟨⟨hbare, hpadded⟩, hread⟩ := hdecimal
      obtain ⟨hdigits, -, hv, hrange⟩ := (read?_behind hlo hhi .absent (by decide) hbare).1 hread
      rw [isZeroPadded_eq, hcs, dropSign_append hbare, isPadded_eq_false_iff hdigits] at hpadded
      have hspells : Spells sign (sign.text ++ dropPlus cs) (sign.factor * valueIn 10 (dropPlus cs)) :=
        .decimal hdigits hpadded
      rw [← hcs, hfactor hsign, ← hv] at hspells
      exact ⟨sign, hsign, hspells, hrange⟩
  · rintro ⟨sign, hsign, hspells, hrange⟩
    cases hspells with
    | @decimal digits hdigits hunpadded =>
      have hread := (read?_behind hlo hhi .absent (by decide) hdigits.ofText_eq).2
        ⟨hdigits, nofun, rfl, hfactor hsign ▸ hrange⟩
      rw [dropPlus_append hdigits.ofText_eq hsign, isZeroPadded_eq, dropSign_append hdigits.ofText_eq,
        (isPadded_eq_false_iff hdigits).2 hunpadded, head?_any_sign_iff.2 hdigits.ofText_eq, hfactor hsign]
      exact .inr ⟨readRadix?_of_isDigits false hdigits, toOption_eq_some_iff.2 hread⟩
    | @inRadix letter radix digits hletter hdigits =>
      rw [dropPlus_append rfl hsign, hfactor hsign]
      exact .inl ((readRadix?_eq_some_iff hlo hhi .absent nofun).2
        ⟨letter, radix, digits, rfl, hletter, hdigits, nofun, rfl, hfactor hsign ▸ hrange⟩)

/-- Whatever `v` is read where a minus sign may stand. -/
theorem spells_of_readNegative? (h : readNegative? r cs = some v) : ∃ sign, Spells sign cs v ∧ r.lo ≤ v ∧ v ≤ r.hi := by
  rw [readNegative?_eq, Option.or_eq_some_iff] at h
  rcases h with hradix | ⟨-, hdecimal⟩
  · rw [readNegativeRadix?.eq_def] at hradix
    split at hradix
    · obtain ⟨letter, radix, digits, rfl, hletter, hdigits, -, rfl, hrange⟩ :=
        (readRadix?_eq_some_iff hlo hhi .minus (by decide)).1 hradix
      exact ⟨.minus, .inRadix hletter hdigits, hrange⟩
    · cases hradix
  · rw [Option.ite_none_left_eq_some, Bool.not_eq_true, toOption_eq_some_iff,
      Range.read?_eq_ok_iff hlo hhi (by decide)] at hdecimal
    obtain ⟨hpadded, sign, ⟨digits, hdigits, rfl, rfl⟩, -, hrange⟩ := hdecimal
    rw [isZeroPadded_eq, dropSign_append hdigits.ofText_eq, isPadded_eq_false_iff hdigits] at hpadded
    exact ⟨sign, .decimal hdigits hpadded, hrange⟩

/-- With a minus sign, all integers of a range `r` that has one are read. -/
theorem readNegative?_of_spells (h : Spells .minus cs v) (hhas : r.hasSign = true) (hrange : r.lo ≤ v ∧ v ≤ r.hi) :
    readNegative? r cs = some v := by
  rw [readNegative?_eq, Option.or_eq_some_iff]
  cases h with
  | @decimal digits hdigits hunpadded =>
    have hread := (read?_behind hlo hhi .minus (by decide) hdigits.ofText_eq).2
      ⟨hdigits, fun _ => hhas, rfl, hrange⟩
    rw [isZeroPadded_eq, dropSign_append hdigits.ofText_eq, (isPadded_eq_false_iff hdigits).2 hunpadded]
    exact .inr ⟨readRadix?_of_isDigits true hdigits, toOption_eq_some_iff.2 hread⟩
  | @inRadix letter radix digits hletter hdigits =>
    exact .inl ((readRadix?_eq_some_iff hlo hhi .minus nofun).2
      ⟨letter, radix, digits, rfl, hletter, hdigits, fun _ => hhas, rfl, hrange⟩)

end

/-! ## Integers of a document -/

private theorem Spells.sign_eq (h : Spells sign cs v) : Sign.ofText cs = sign := by
  cases h with
  | decimal hdigits => exact Sign.ofText_append sign hdigits.ofText_eq
  | inRadix => exact Sign.ofText_append sign rfl

/-- An integer `v` without a minus sign is none below zero, and one with it none above. -/
theorem Spells.sign_le (h : Spells sign cs v) : if sign = .minus then v ≤ 0 else 0 ≤ v := by
  have hle : ∀ n : Nat, if sign = .minus then sign.factor * (n : Int) ≤ 0 else 0 ≤ sign.factor * (n : Int) := by
    intro n
    cases sign with
    | absent => exact (Int.one_mul n).symm ▸ Int.natCast_nonneg n
    | plus => exact (Int.one_mul n).symm ▸ Int.natCast_nonneg n
    | minus =>
      change -1 * (n : Int) ≤ 0
      omega
  cases h with
  | decimal => exact hle _
  | inRadix => exact hle _

theorem spells_of_readInt? {t : String} (h : readInt? t = some v) : ∃ sign, Spells sign t.toList v := by
  rw [readInt?, Option.or_eq_some_iff, Option.or_eq_some_iff, Option.or_eq_some_iff] at h
  rcases h with ((h | ⟨-, h⟩) | ⟨-, h⟩) | ⟨-, h⟩
  · obtain ⟨sign, -, hspells, -⟩ := (readNatural?_eq_some_iff (by decide) (by decide)).1 h
    exact ⟨sign, hspells⟩
  · obtain ⟨sign, hspells, -⟩ := spells_of_readNegative? (by decide) (by decide) h
    exact ⟨sign, hspells⟩
  · obtain ⟨sign, -, hspells, -⟩ := (readNatural?_eq_some_iff (by decide) (by decide)).1 h
    exact ⟨sign, hspells⟩
  · obtain ⟨sign, hspells, -⟩ := spells_of_readNegative? (by decide) (by decide) h
    exact ⟨sign, hspells⟩

theorem isWordSized_iff : isWordSized v = true ↔ -(9223372036854775808 : Int) ≤ v ∧ v < 18446744073709551616 := by
  rw [isWordSized, Bool.and_eq_true, decide_eq_true_eq, decide_eq_true_eq]
  exact Iff.rfl

private theorem readInt?_of_spells {t : String} (h : Spells sign t.toList v) (hsize : isWordSized v = true) :
    readInt? t = some v := by
  obtain ⟨hlow, hhigh⟩ := isWordSized_iff.1 hsize
  have hsign := h.sign_le
  rw [readInt?]
  by_cases hminus : sign = .minus
  · -- what has a minus sign is no natural number
    subst hminus
    have hnatural : readNatural? (.unsigned 64) t.toList = none := by
      rw [Option.eq_none_iff_forall_ne_some]
      intro w hw
      obtain ⟨sign, hsign, hspells, -⟩ := (readNatural?_eq_some_iff (by decide) (by decide)).1 hw
      exact hsign (hspells.sign_eq.symm.trans h.sign_eq)
    rw [hnatural, readNegative?_of_spells (by decide) (by decide) h (by decide)
      ⟨hlow, Int.le_trans (if_pos rfl ▸ hsign) (by decide)⟩]
    rfl
  · rw [if_neg hminus] at hsign
    rw [(readNatural?_eq_some_iff (by decide) (by decide)).2
      ⟨sign, hminus, h, hsign, by change v ≤ (18446744073709551615 : Int); omega⟩]
    rfl

/-- The words for null and the booleans, and the empty text. -/
def words : List String := ["", "~", "null", "Null", "NULL", "true", "True", "TRUE", "false", "False", "FALSE"]

private theorem mem_words {t : String} (h : t.isEmpty || isNullWord t || (readBool? t).isSome) : t ∈ words := by
  rw [isNullWord, readBool?] at h
  simp only [words, List.mem_cons, List.not_mem_nil, or_false]
  grind [String.isEmpty_iff]

private theorem readInt?_word : ∀ t ∈ words, readInt? t = none := by decide

/-- A plain scalar `t` is an integer just if `readInt?` reads one. -/
theorem ofPlain_eq_int_iff_readInt? {t : String} : ofPlain t = .int v ↔ readInt? t = some v := by
  constructor
  · intro h
    rw [ofPlain] at h
    grind
  · intro h
    have hword : (t.isEmpty || isNullWord t || (readBool? t).isSome) = false := by
      rw [Bool.eq_false_iff]
      intro hword
      cases (readInt?_word t (mem_words hword)).symm.trans h
    obtain ⟨hnull, hbool⟩ := Bool.or_eq_false_iff.1 hword
    rw [ofPlain, hnull, if_neg Bool.false_ne_true, Option.isNone_iff_eq_none.1 (Option.isSome_eq_false_iff.1 hbool), h]

/-- A plain scalar `t` is an integer `v` that fits a document just if it `Spells` the integer. -/
theorem ofPlain_eq_int_iff {t : String} (hsize : isWordSized v = true) :
    ofPlain t = .int v ↔ ∃ sign, Spells sign t.toList v := by
  rw [ofPlain_eq_int_iff_readInt?]
  constructor
  · exact spells_of_readInt?
  · rintro ⟨sign, h⟩
    exact readInt?_of_spells h hsize

end Scalar

end DatasetLint.Yaml
