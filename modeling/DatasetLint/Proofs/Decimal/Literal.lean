import DatasetLint.Proofs.Decimal.Integer
import Mathlib.Tactic.Ring

/-!
# Written integers

An integer is written as digits in a base, behind a sign or none. What is read as an integer of a range is just what
is written like that, with a minus sign only if the range has negative numbers, and stands for a number of the range.
A number outside of it is refused, by however much and with however many digits: nothing wraps or is cut off.
-/

namespace DatasetLint.Decimal

/-- How the text of an integer begins. -/
inductive Sign where
  | absent
  | plus
  | minus
deriving DecidableEq, Repr

namespace Sign

def text : Sign → List Char
  | absent => []
  | plus => ['+']
  | minus => ['-']

/-- What the sign makes of the number that the digits stand for. -/
def factor : Sign → Int
  | minus => -1
  | _ => 1

/-- The sign at the head of a text. -/
def ofText : List Char → Sign
  | '+' :: _ => plus
  | '-' :: _ => minus
  | _ => absent

private theorem factor_eq (s : Sign) : s.factor = 1 ∨ s.factor = -1 := by
  cases s
  · exact .inl rfl
  · exact .inl rfl
  · exact .inr rfl

/-- The sign `s` before a text `cs` without one is the sign of the whole. -/
theorem ofText_append (s : Sign) {cs : List Char} (h : ofText cs = absent) : ofText (s.text ++ cs) = s := by
  cases s with
  | absent => exact h
  | plus => rfl
  | minus => rfl

end Sign

/-- `cs` are one or more digits in the base `radix`. -/
def IsDigits (radix : Nat) (cs : List Char) : Prop := cs ≠ [] ∧ ∀ c ∈ cs, (digitValue radix c).isSome = true

/-- The number that digits in the base `radix` stand for, each by its place. -/
def valueIn (radix : Nat) : List Char → Nat
  | [] => 0
  | c :: cs => (digitValue radix c).getD 0 * radix ^ cs.length + valueIn radix cs

/-- The text `cs` is `sign` and digits that stand for `v`. -/
def Writes (radix : Nat) (cs : List Char) (sign : Sign) (v : Int) : Prop :=
  ∃ digits, IsDigits radix digits ∧ cs = sign.text ++ digits ∧ v = sign.factor * valueIn radix digits

/-! ## Digits -/

private theorem ne_sign_of_digitValue {radix : Nat} {c : Char} (h : (digitValue radix c).isSome = true) :
    c ≠ '+' ∧ c ≠ '-' := by
  constructor <;> (rintro rfl; cases h)

/-- The text `digits` does not begin with a sign. -/
theorem IsDigits.ofText_eq {radix : Nat} {digits : List Char} (h : IsDigits radix digits) :
    Sign.ofText digits = .absent := by
  obtain ⟨c, ds, rfl⟩ := List.exists_cons_of_ne_nil h.1
  obtain ⟨hplus, hminus⟩ := ne_sign_of_digitValue (h.2 c (List.mem_cons_self ..))
  exact Sign.ofText.eq_3 _ (fun _ h => hplus (List.cons.inj h).1) fun _ h => hminus (List.cons.inj h).1

theorem isSome_digitValue_ten (c : Char) : (digitValue 10 c).isSome = c.isDigit := by
  rw [digitValue_ten]
  cases c.isDigit <;> rfl

theorem isDigits_ten_iff {cs : List Char} : IsDigits 10 cs ↔ cs ≠ [] ∧ ∀ c ∈ cs, c.isDigit = true := by
  rw [IsDigits]
  simp only [isSome_digitValue_ten]

/-- In decimal the places give what `digitsValue` has of the digits one after the other. -/
theorem valueIn_ten {cs : List Char} (h : ∀ c ∈ cs, c.isDigit = true) : valueIn 10 cs = digitsValue cs := by
  induction cs with
  | nil => rfl
  | cons c cs ih =>
    obtain ⟨hc, hcs⟩ := List.forall_mem_cons.1 h
    have hcons : digitsValue (c :: cs) = 10 ^ cs.length * (c.toNat - '0'.toNat) + digitsValue cs := by
      change Nat.ofDigitChars 10 (c :: cs) 0 = _ + Nat.ofDigitChars 10 cs 0
      rw [Nat.ofDigitChars_cons, Nat.ofDigitChars_eq_ofDigitChars_zero, Nat.mul_zero, Nat.zero_add]
    rw [valueIn, hcons, ih hcs, digitValue_ten, if_pos hc, Option.getD_some, Nat.mul_comm]

private theorem isDigits_natDigits (n : Nat) : IsDigits 10 (natDigits n) :=
  isDigits_ten_iff.2 ⟨natDigits_ne_nil n, fun _ hc => isDigit_of_mem_natDigits hc⟩

/-! ## Reading -/

section Reading

variable {r : Range} {radix d : Nat} {sign acc : Int} {c : Char} {cs : List Char}

/-- A digit `c` that stays in the range `r` is read. -/
theorem readDigits_cons (hc : digitValue radix c = some d)
    (hin : r.lo ≤ radix * acc + sign * d ∧ radix * acc + sign * d ≤ r.hi) :
    readDigits radix r sign acc (c :: cs) = readDigits radix r sign (radix * acc + sign * d) cs := by
  rw [readDigits, hc]
  dsimp only
  rw [if_neg (Int.not_lt.2 hin.2), if_neg (Int.not_lt.2 hin.1)]

/-- A digit `c` that leaves the range `r` is not. -/
theorem readDigits_cons_ne_ok (hc : digitValue radix c = some d)
    (hout : ¬(r.lo ≤ radix * acc + sign * d ∧ radix * acc + sign * d ≤ r.hi)) (v : Int) :
    readDigits radix r sign acc (c :: cs) ≠ .ok v := by
  rw [readDigits, hc]
  dsimp only
  split
  · exact nofun
  · rw [if_pos (by omega)]
    exact nofun

private theorem readDigits_cons_ne_ok_of_none (hc : digitValue radix c = none) (v : Int) :
    readDigits radix r sign acc (c :: cs) ≠ .ok v := by
  rw [readDigits, hc]
  exact nofun

/-- What `readDigits` takes are digits, whatever the range. -/
theorem isSome_digitValue_of_readDigits {v : Int} (h : readDigits radix r sign acc cs = .ok v) :
    ∀ c ∈ cs, (digitValue radix c).isSome = true := by
  induction cs generalizing acc with
  | nil => exact List.forall_mem_nil _
  | cons c cs ih =>
    cases hc : digitValue radix c with
    | none => exact absurd h (readDigits_cons_ne_ok_of_none hc v)
    | some d =>
      by_cases hin : r.lo ≤ radix * acc + sign * d ∧ radix * acc + sign * d ≤ r.hi
      · rw [readDigits_cons hc hin] at h
        exact List.forall_mem_cons.2 ⟨by rw [hc]; rfl, ih h⟩
      · exact absurd h (readDigits_cons_ne_ok hc hin v)

end Reading

/-- The digits `cs` behind the number `acc` are read just if they are all digits and the number `v` of all of them
is in the range. It grows away from zero with each, so that the range is never left and entered again. -/
theorem readDigits_eq_ok_iff {r : Range} {radix : Nat} {sign : Int} (hsign : sign = 1 ∨ sign = -1) (hlo : r.lo ≤ 0)
    (hhi : 0 ≤ r.hi) (hradix : 0 < radix) {cs : List Char} (acc : Nat) (hacc : r.lo ≤ sign * acc ∧ sign * acc ≤ r.hi)
    {v : Int} : readDigits radix r sign (sign * acc) cs = .ok v ↔
      (∀ c ∈ cs, (digitValue radix c).isSome = true) ∧ v = sign * (acc * radix ^ cs.length + valueIn radix cs : Nat) ∧
        r.lo ≤ v ∧ v ≤ r.hi := by
  induction cs generalizing acc with
  | nil =>
    rw [readDigits, valueIn, List.length_nil, Nat.pow_zero, Nat.mul_one, Nat.add_zero, Except.ok.injEq]
    constructor
    · rintro rfl
      exact ⟨List.forall_mem_nil _, rfl, hacc⟩
    · exact fun h => h.2.1.symm
  | cons c cs ih =>
    rw [List.forall_mem_cons, valueIn, List.length_cons]
    cases hc : digitValue radix c with
    | none =>
      refine iff_of_false (readDigits_cons_ne_ok_of_none hc v) ?_
      exact fun h => absurd h.1.1 (by decide)
    | some d =>
      have hnext : (radix : Int) * (sign * acc) + sign * d = sign * (radix * acc + d : Nat) := by
        push_cast
        ring
      have hvalue : acc * radix ^ (cs.length + 1) + (d * radix ^ cs.length + valueIn radix cs) =
          (radix * acc + d) * radix ^ cs.length + valueIn radix cs := by ring
      rw [Option.getD_some, hvalue]
      by_cases hin : r.lo ≤ sign * (radix * acc + d : Nat) ∧ sign * (radix * acc + d : Nat) ≤ r.hi
      · rw [readDigits_cons hc (hnext ▸ hin), hnext, ih _ hin, and_iff_right (Option.isSome_some)]
      · refine iff_of_false (readDigits_cons_ne_ok hc (hnext ▸ hin) v) ?_
        rintro ⟨-, rfl, hrange⟩
        -- the digits to come do not bring the number back
        have hgrows : radix * acc + d ≤ (radix * acc + d) * radix ^ cs.length + valueIn radix cs :=
          Nat.le_trans (Nat.le_mul_of_pos_right _ (Nat.pow_pos hradix)) (Nat.le_add_right _ _)
        rcases hsign with rfl | rfl <;> omega

namespace Range

variable {r : Range} {radix : Nat} {cs : List Char} {v : Int}

/-- A text that begins with the digit `c` has no sign, and is read as digits. -/
theorem read?_of_digitValue {c : Char} (hc : (digitValue radix c).isSome = true) :
    r.read? radix (c :: cs) = readDigits radix r 1 0 (c :: cs) := by
  obtain ⟨hplus, hminus⟩ := ne_sign_of_digitValue hc
  rw [read?]
  · exact List.cons_ne_nil c cs
  · exact fun h => hplus (List.cons.inj h).1
  · exact fun h => hminus (List.cons.inj h).1
  · exact fun _ h => hplus (List.cons.inj h).1
  · exact fun _ h => hminus (List.cons.inj h).1

private theorem read?_minus {c : Char} :
    r.read? radix ('-' :: c :: cs) = if r.hasSign then readDigits radix r (-1) 0 (c :: cs) else .error .invalidDigit := by
  rw [read?]
  exact List.cons_ne_nil c cs

private theorem read?_plus {c : Char} : r.read? radix ('+' :: c :: cs) = readDigits radix r 1 0 (c :: cs) := by
  rw [read?]
  exact List.cons_ne_nil c cs

/-- Behind its first character `c` an integer has digits only. -/
theorem isSome_digitValue_of_read? {c : Char} (h : r.read? radix (c :: cs) = .ok v) :
    ∀ d ∈ cs, (digitValue radix d).isSome = true := by
  rw [read?.eq_def] at h
  split at h
  · cases h
  · cases h
  · cases h
  · rename_i heq
    cases heq
    exact isSome_digitValue_of_readDigits h
  · rename_i heq
    cases heq
    split at h
    · exact isSome_digitValue_of_readDigits h
    · cases h
  · exact (List.forall_mem_cons.1 (isSome_digitValue_of_readDigits h)).2

variable (hlo : r.lo ≤ 0) (hhi : 0 ≤ r.hi) (hradix : 0 < radix)

include hlo hhi hradix

/-- The text `digits` behind `sign` is read just if it stands for a number `v` of the range `r`. -/
theorem readDigits_sign (sign : Sign) {digits : List Char} : readDigits radix r sign.factor 0 digits = .ok v ↔
    (∀ c ∈ digits, (digitValue radix c).isSome = true) ∧ v = sign.factor * valueIn radix digits ∧ r.lo ≤ v ∧ v ≤ r.hi := by
  have h := @readDigits_eq_ok_iff r radix sign.factor sign.factor_eq hlo hhi hradix digits 0 (by simpa using ⟨hlo, hhi⟩) v
  simpa using h

/-- An integer `v` of the range `r` is read just from a sign, which is a minus only if `r.hasSign`, and digits that
stand for `v`. -/
theorem read?_eq_ok_iff : r.read? radix cs = .ok v ↔
    ∃ sign, Writes radix cs sign v ∧ (sign = .minus → r.hasSign = true) ∧ r.lo ≤ v ∧ v ≤ r.hi := by
  constructor
  · intro h
    have hread : ∀ (sign : Sign) (digits : List Char), digits ≠ [] → cs = sign.text ++ digits →
        (sign = .minus → r.hasSign = true) → readDigits radix r sign.factor 0 digits = .ok v →
        ∃ sign, Writes radix cs sign v ∧ (sign = .minus → r.hasSign = true) ∧ r.lo ≤ v ∧ v ≤ r.hi := by
      intro sign digits hne hcs hminus hdigits
      obtain ⟨hall, hv, hrange⟩ := (readDigits_sign hlo hhi hradix sign).1 hdigits
      exact ⟨sign, ⟨digits, ⟨hne, hall⟩, hcs, hv⟩, hminus, hrange⟩
    rw [read?.eq_def] at h
    split at h
    · cases h
    · cases h
    · cases h
    · rename_i ds hne
      exact hread .plus ds (fun hds => hne (by rw [hds])) rfl (absurd · (by decide)) h
    · rename_i ds hne
      split at h
      · rename_i hhas
        exact hread .minus ds (fun hds => hne (by rw [hds])) rfl (fun _ => hhas) h
      · cases h
    · rename_i hne _ _ _ _
      exact hread .absent cs hne rfl (absurd · (by decide)) h
  · rintro ⟨sign, ⟨digits, ⟨hne, hall⟩, rfl, hv⟩, hminus, hrange⟩
    have hdigits := (readDigits_sign hlo hhi hradix sign).2 ⟨hall, hv, hrange⟩
    obtain ⟨c, ds, rfl⟩ := List.exists_cons_of_ne_nil hne
    cases sign with
    | absent => exact (read?_of_digitValue (hall c (List.mem_cons_self ..))).trans hdigits
    | plus => exact read?_plus.trans hdigits
    | minus => exact (read?_minus.trans (if_pos (hminus rfl))).trans hdigits

end Range

/-! ## Canonical texts -/

/-- The sign of a written integer is the one at the head of its text `cs`. -/
theorem Writes.sign_eq {radix : Nat} {cs : List Char} {sign : Sign} {v : Int} (h : Writes radix cs sign v) :
    Sign.ofText cs = sign := by
  obtain ⟨digits, hdigits, rfl, -⟩ := h
  exact Sign.ofText_append sign hdigits.ofText_eq

/-- The text `cs` stands for one integer. -/
theorem Writes.unique {radix : Nat} {cs : List Char} {sign sign' : Sign} {v w : Int} (hv : Writes radix cs sign v)
    (hw : Writes radix cs sign' w) : v = w := by
  have hsign : sign = sign' := hv.sign_eq.symm.trans hw.sign_eq
  obtain ⟨digits, -, rfl, rfl⟩ := hv
  obtain ⟨digits', -, heq, rfl⟩ := hw
  rw [hsign] at heq ⊢
  rw [List.append_cancel_left heq]

theorem writes_integerText (n : Int) : Writes 10 (integerText n).toList (if n < 0 then .minus else .absent) n := by
  have hvalue : (valueIn 10 (natDigits n.natAbs) : Int) = n.natAbs := by
    rw [valueIn_ten fun c hc => isDigit_of_mem_natDigits hc, digitsValue_natDigits]
  refine ⟨natDigits n.natAbs, isDigits_natDigits _, ?_, ?_⟩
  · rw [toList_integerText]
    split <;> rfl
  · rw [hvalue]
    split
    · rw [Sign.factor]
      omega
    · change n = 1 * _
      omega

/-- The text of `n` is read as `n` just if this is in the range `r`, and as no other number. -/
theorem Range.read?_integerText {r : Range} (hlo : r.lo ≤ 0) (hhi : 0 ≤ r.hi) (n v : Int) :
    r.read? 10 (integerText n).toList = .ok v ↔ v = n ∧ r.lo ≤ n ∧ n ≤ r.hi := by
  rw [read?_eq_ok_iff hlo hhi (by decide)]
  constructor
  · rintro ⟨sign, hwrites, -, hrange⟩
    have hv : v = n := hwrites.unique (writes_integerText n)
    rw [hv] at hrange
    exact ⟨hv, hrange⟩
  · rintro ⟨rfl, hrange⟩
    refine ⟨_, writes_integerText v, fun hminus => ?_, hrange⟩
    by_cases hneg : v < 0
    · exact decide_eq_true (Int.lt_of_le_of_lt hrange.1 hneg)
    · rw [if_neg hneg] at hminus
      cases hminus

end DatasetLint.Decimal
