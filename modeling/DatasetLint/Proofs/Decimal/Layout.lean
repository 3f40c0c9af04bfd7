import DatasetLint.Decimal.Layout
import DatasetLint.Proofs.Decimal.Integer
import DatasetLint.Proofs.Decimal.Shortest
import DatasetLint.Proofs.Text.Span

/-!
# Written numbers read back

However the digits of a value are laid out, with a point among them or with a power of ten behind, reading them
gives the numeral that they are, and this is rounded to the value again.
-/

namespace DatasetLint.Decimal

/-! ## Digits around a point, and a power -/

/-- What a numeral without sign is written with: the digits on the left of the point, those on its right, and the
number behind the `e`. -/
structure Spelling where
  whole : List Char
  fraction : List Char
  power : Option Int

namespace Spelling

/-- The digits `ds` behind a point, which stands in front of digits only. -/
def pointed : List Char → List Char
  | [] => []
  | ds => '.' :: ds

def powered : Option Int → List Char
  | none => []
  | some k => 'e' :: (integerText k).toList

def text (s : Spelling) : List Char := s.whole ++ (pointed s.fraction ++ powered s.power)

/-- There are digits, at least in the `whole` part, and nothing else than digits around the point. -/
structure IsProper (s : Spelling) : Prop where
  whole_ne_nil : s.whole ≠ []
  whole_digits : ∀ c ∈ s.whole, c.isDigit = true
  fraction_digits : ∀ c ∈ s.fraction, c.isDigit = true

def numeral (s : Spelling) (negative : Bool) : Numeral :=
  ⟨negative, digitsValue (s.whole ++ s.fraction), s.power.getD 0 - s.fraction.length⟩

/-- The characters of the numeral `s`. -/
theorem mem_text {s : Spelling} (h : s.IsProper) {c : Char} (hc : c ∈ s.text) :
    c.isDigit = true ∨ c = '.' ∨ c = 'e' ∨ c = '-' := by
  rcases List.mem_append.1 hc with hc | hc
  · exact .inl (h.whole_digits c hc)
  · rcases List.mem_append.1 hc with hc | hc
    · cases hf : s.fraction with
      | nil =>
        rw [hf] at hc
        cases hc
      | cons d ds =>
        rw [hf] at hc
        rcases List.mem_cons.1 hc with hpoint | hc
        · exact .inr (.inl hpoint)
        · exact .inl (h.fraction_digits c (hf ▸ hc))
    · cases hp : s.power with
      | none =>
        rw [hp] at hc
        cases hc
      | some k =>
        rw [hp] at hc
        rcases List.mem_cons.1 hc with hpower | hc
        · exact .inr (.inr (.inl hpower))
        · rw [toList_integerText] at hc
          split at hc
          · rcases List.mem_cons.1 hc with hminus | hc
            · exact .inr (.inr (.inr hminus))
            · exact .inl (isDigit_of_mem_natDigits hc)
          · exact .inl (isDigit_of_mem_natDigits hc)

private theorem head?_powered (p : Option Int) : ∀ c ∈ (powered p).head?, c.isDigit = false := by
  cases p with
  | none => exact nofun
  | some k =>
    intro c hc
    cases hc
    rfl

private theorem readExponent?_minus {ds : List Char} (hne : ds ≠ []) (hds : ∀ c ∈ ds, c.isDigit = true) :
    readExponent? ('e' :: '-' :: ds) = some (-(digitsValue ds : Int)) := by
  have hall : (!ds.isEmpty && ds.all Char.isDigit) = true := by
    rw [Bool.and_eq_true, List.isEmpty_eq_false_iff.2 hne]
    exact ⟨rfl, List.all_eq_true.2 hds⟩
  change (if (!ds.isEmpty && ds.all Char.isDigit) = true then some (-(digitsValue ds : Int)) else none) = _
  rw [if_pos hall]

private theorem readExponent?_digits {c : Char} {cs : List Char} (hds : ∀ d ∈ c :: cs, d.isDigit = true) :
    readExponent? ('e' :: c :: cs) = some (digitsValue (c :: cs) : Int) := by
  have hc : c.isDigit = true := hds c (List.mem_cons_self ..)
  have hplus : c ≠ '+' := by rintro rfl; cases hc
  have hminus : c ≠ '-' := by rintro rfl; cases hc
  rw [readExponent?, if_pos (by decide), if_pos]
  · rfl
  · rw [Bool.and_eq_true]
    exact ⟨rfl, List.all_eq_true.2 hds⟩
  · exact fun _ h => hplus (List.cons.inj h).1
  · exact fun _ h => hminus (List.cons.inj h).1

private theorem readExponent?_powered (p : Option Int) : readExponent? (powered p) = some (p.getD 0) := by
  cases p with
  | none => rfl
  | some k =>
    have hdigits : ∀ d ∈ natDigits k.natAbs, d.isDigit = true := fun d hd => isDigit_of_mem_natDigits hd
    rw [powered, toList_integerText, Option.getD_some]
    split
    · rename_i hneg
      rw [readExponent?_minus (natDigits_ne_nil _) hdigits, digitsValue_natDigits]
      congr 1
      omega
    · rename_i hpos
      have hvalue := digitsValue_natDigits k.natAbs
      obtain ⟨c, cs, hcs⟩ := List.exists_cons_of_ne_nil (natDigits_ne_nil k.natAbs)
      rw [hcs] at hdigits hvalue ⊢
      rw [readExponent?_digits hdigits, hvalue]
      congr 1
      omega

/-- What stands behind the digits on the left: the digits behind a point, and the rest. -/
def splitPoint : List Char → List Char × List Char
  | '.' :: r => (r.takeWhile Char.isDigit, r.dropWhile Char.isDigit)
  | r => ([], r)

private theorem readUnsigned?_eq (negative : Bool) (cs : List Char) : Numeral.readUnsigned? negative cs =
    let whole := cs.takeWhile Char.isDigit
    let (fraction, rest) := splitPoint (cs.dropWhile Char.isDigit)
    if whole.isEmpty && fraction.isEmpty then none
    else (readExponent? rest).map fun e => ⟨negative, digitsValue (whole ++ fraction), e - fraction.length⟩ := rfl

private theorem splitPoint_pointed {ds : List Char} (hds : ∀ c ∈ ds, c.isDigit = true) (p : Option Int) :
    splitPoint (pointed ds ++ powered p) = (ds, powered p) := by
  cases ds with
  | nil => cases p <;> rfl
  | cons d ds =>
    obtain ⟨htake, hdrop⟩ := Text.span_append hds (head?_powered p)
    change ((d :: ds ++ powered p).takeWhile Char.isDigit, (d :: ds ++ powered p).dropWhile Char.isDigit) = _
    rw [htake, hdrop]

theorem readUnsigned?_text {s : Spelling} (h : s.IsProper) (negative : Bool) :
    Numeral.readUnsigned? negative s.text = some (s.numeral negative) := by
  have hrest : ∀ c ∈ (pointed s.fraction ++ powered s.power).head?, c.isDigit = false := by
    cases s.fraction with
    | nil => exact head?_powered s.power
    | cons d ds =>
      intro c hc
      cases hc
      rfl
  obtain ⟨htake, hdrop⟩ := Text.span_append h.whole_digits hrest
  have hwhole : s.whole.isEmpty = false := List.isEmpty_eq_false_iff.2 h.whole_ne_nil
  rw [readUnsigned?_eq, text, htake, hdrop, splitPoint_pointed h.fraction_digits]
  dsimp only
  rw [hwhole, readExponent?_powered]
  rfl

end Spelling

/-! ## Layouts -/

/-- The number that `n` stands for, without its sign. -/
def Numeral.value (n : Numeral) : ℚ := n.digits * 10 ^ n.exponent

/-- The numeral `s` spells the digits `d`: it has a point or a power, and their value. -/
structure Spelling.Spells (s : Spelling) (d : Digits) : Prop extends s.IsProper where
  fractional : s.fraction ≠ [] ∨ s.power ≠ none
  digits_pos : 0 < digitsValue (s.whole ++ s.fraction)
  value_eq : (s.numeral false).value = d.value

private theorem digitsValue_append (cs ds : List Char) :
    digitsValue (cs ++ ds) = 10 ^ ds.length * digitsValue cs + digitsValue ds := by
  have happend : digitsValue (cs ++ ds) = Nat.ofDigitChars 10 ds (digitsValue cs) := Nat.ofDigitChars_append 0
  rw [happend, Nat.ofDigitChars_eq_ofDigitChars_zero]
  rfl

private theorem digitsValue_zeros (n : Nat) : digitsValue (zeros n) = 0 := Nat.ofDigitChars_replicate_zero

private theorem isDigit_of_mem_zeros {n : Nat} {c : Char} (h : c ∈ zeros n) : c.isDigit = true := by
  cases List.eq_of_mem_replicate h
  rfl

private theorem isDigit_of_mem_zero : ∀ c ∈ ['0'], c.isDigit = true := by
  intro c hc
  rw [List.mem_singleton.1 hc]
  rfl

variable {d : Digits} (hd : 0 < d.digits)

include hd

/-- A numeral `s` with all the digits of `d`, and no others to the right, has their value. -/
theorem spells_of_digits {s : Spelling} (hs : s.IsProper) (hfractional : s.fraction ≠ [] ∨ s.power ≠ none)
    (hdigits : digitsValue (s.whole ++ s.fraction) = d.digits)
    (hexponent : s.power.getD 0 - s.fraction.length = d.exponent) : s.Spells d where
  toIsProper := hs
  fractional := hfractional
  digits_pos := hdigits ▸ hd
  value_eq := by rw [Spelling.numeral, Numeral.value, Digits.value, hdigits, hexponent]

section

variable {ds : List Char} (hds : ∀ c ∈ ds, c.isDigit = true) (hvalue : digitsValue ds = d.digits) (hne : ds ≠ [])

include hds hvalue hne

/-- The digits `ds` behind the point. -/
theorem exists_spelling_behind (hpoint : ds.length + d.exponent ≤ 0) : ∃ s : Spelling, s.Spells d ∧
    s.text = '0' :: '.' :: (zeros (-(ds.length + d.exponent)).toNat ++ ds) := by
  have hfraction : zeros (-(ds.length + d.exponent)).toNat ++ ds ≠ [] := List.append_ne_nil_of_right_ne_nil _ hne
  refine ⟨⟨['0'], zeros (-(ds.length + d.exponent)).toNat ++ ds, none⟩, spells_of_digits hd ?_ (.inl hfraction) ?_ ?_, ?_⟩
  · refine ⟨List.cons_ne_nil _ _, isDigit_of_mem_zero, fun c hc => ?_⟩
    exact (List.mem_append.1 hc).elim isDigit_of_mem_zeros (hds c)
  · rw [digitsValue_append, digitsValue_append, digitsValue_zeros, hvalue]
    change _ * 0 + _ = _
    omega
  · rw [List.length_append, zeros, List.length_replicate, Option.getD_none]
    push_cast
    omega
  · obtain ⟨c, cs, hcs⟩ := List.exists_cons_of_ne_nil hfraction
    rw [Spelling.text, hcs, Spelling.pointed, Spelling.powered, List.append_nil]
    · rfl
    · exact List.cons_ne_nil c cs

/-- The digits `ds`, and zeros, before the point. -/
theorem exists_spelling_before (hpoint : 0 ≤ d.exponent) : ∃ s : Spelling, s.Spells d ∧
    s.text = ds ++ zeros (ds.length + d.exponent - ds.length).toNat ++ ['.', '0'] := by
  have hshift : (ds.length + d.exponent - ds.length : Int) = d.exponent := by omega
  rw [hshift]
  refine ⟨⟨ds ++ zeros d.exponent.toNat, ['0'], none⟩, ⟨?_, .inl (List.cons_ne_nil _ _), ?_, ?_⟩, rfl⟩
  · refine ⟨List.append_ne_nil_of_left_ne_nil hne _, fun c hc => ?_, isDigit_of_mem_zero⟩
    exact (List.mem_append.1 hc).elim (hds c) isDigit_of_mem_zeros
  · rw [digitsValue_append, digitsValue_append, hvalue, digitsValue_zeros]
    positivity
  · have hexponent : d.exponent = (d.exponent.toNat : Int) := (Int.toNat_of_nonneg hpoint).symm
    rw [Spelling.numeral, Numeral.value, Digits.value, digitsValue_append, digitsValue_append, hvalue,
      digitsValue_zeros, zeros, List.length_replicate, Option.getD_none, hexponent]
    -- the zero behind the point multiplies the digits by ten and takes one off the exponent
    change ((10 ^ 1 * (10 ^ d.exponent.toNat * d.digits + 0) + 0 : Nat) : ℚ) * 10 ^ (-1 : Int) = _
    rw [zpow_natCast]
    push_cast
    rw [zpow_neg_one]
    ring

/-- The digits `ds` on both sides of the point. -/
theorem exists_spelling_around (hpoint : 0 < ds.length + d.exponent) (hinside : d.exponent < 0) :
    ∃ s : Spelling, s.Spells d ∧
      s.text = ds.take (ds.length + d.exponent).toNat ++ '.' :: ds.drop (ds.length + d.exponent).toNat := by
  have hdrop : ds.drop (ds.length + d.exponent).toNat ≠ [] := by
    rw [Ne, List.drop_eq_nil_iff]
    omega
  refine ⟨⟨ds.take (ds.length + d.exponent).toNat, ds.drop (ds.length + d.exponent).toNat, none⟩,
    spells_of_digits hd ?_ (.inl hdrop) ?_ ?_, ?_⟩
  · refine ⟨?_, fun c hc => hds c (List.mem_of_mem_take hc), fun c hc => hds c (List.mem_of_mem_drop hc)⟩
    rw [Ne, List.take_eq_nil_iff]
    rintro (h | h)
    · omega
    · exact hne h
  · rw [List.take_append_drop, hvalue]
  · rw [List.length_drop, Option.getD_none]
    omega
  · obtain ⟨c, cs, hcs⟩ := List.exists_cons_of_ne_nil hdrop
    rw [Spelling.text, hcs, Spelling.pointed, Spelling.powered, List.append_nil]
    exact List.cons_ne_nil c cs

end

private theorem exists_spelling_positional : ∃ s : Spelling, s.Spells d ∧
    s.text = positional (natDigits d.digits) ((natDigits d.digits).length + d.exponent) := by
  have hds : ∀ c ∈ natDigits d.digits, c.isDigit = true := fun c hc => isDigit_of_mem_natDigits hc
  have hvalue := digitsValue_natDigits d.digits
  have hne := natDigits_ne_nil d.digits
  rw [positional]
  split
  · rename_i hpoint
    exact exists_spelling_behind hd hds hvalue hne hpoint
  · rename_i hpoint
    split
    · rename_i hwhole
      exact exists_spelling_before hd hds hvalue hne (by omega)
    · rename_i hinside
      exact exists_spelling_around hd hds hvalue hne (by omega) (by omega)

private theorem exists_spelling_scientific : ∃ s : Spelling, s.Spells d ∧
    s.text = scientific (natDigits d.digits) ((natDigits d.digits).length + d.exponent) := by
  have hds : ∀ c ∈ natDigits d.digits, c.isDigit = true := fun c hc => isDigit_of_mem_natDigits hc
  have hvalue := digitsValue_natDigits d.digits
  obtain ⟨c, cs, hcs⟩ := List.exists_cons_of_ne_nil (natDigits_ne_nil d.digits)
  rw [hcs] at hds hvalue ⊢
  refine ⟨⟨[c], cs, some ((c :: cs).length + d.exponent - 1)⟩, spells_of_digits hd ?_ (.inr nofun) hvalue ?_, ?_⟩
  · refine ⟨List.cons_ne_nil _ _, fun x hx => hds x ?_, fun x hx => hds x (List.mem_cons_of_mem _ hx)⟩
    rw [List.mem_singleton.1 hx]
    exact List.mem_cons_self ..
  · rw [Option.getD_some, List.length_cons]
    push_cast
    omega
  · cases cs with
    | nil => rfl
    | cons x xs => rfl

private theorem exists_spelling_body (l : Layout) : ∃ s : Spelling, s.Spells d ∧ s.text =
    let ds := natDigits d.digits
    let point : Int := ds.length + d.exponent
    if l.leastPoint.all (· ≤ point) && l.mostPoint.all (point ≤ ·) then positional ds point else scientific ds point := by
  dsimp only
  split
  · exact exists_spelling_positional hd
  · exact exists_spelling_scientific hd

omit hd

/-! ## Numerals of a value are rounded to it -/

private theorem Format.IsNear.bounds {f : Format} {m : Nat} {e : Int} {x : ℚ} (h : f.IsNear m e x) (hm : m ≠ 0)
    (hlt : m < 2 ^ f.precision) : (2 : ℚ) ^ (e - 2) ≤ x ∧ x < 2 ^ (f.precision + e) := by
  have hunit : (0 : ℚ) < 2 ^ (e - 2) := by positivity
  have hgap := lowerGap_le f m e
  constructor
  · have hone : (1 : ℚ) ≤ (4 * m - lowerGap f m e : Nat) := by
      have : 1 ≤ 4 * m - lowerGap f m e := by omega
      exact_mod_cast this
    calc (2 : ℚ) ^ (e - 2) = 1 * 2 ^ (e - 2) := (one_mul _).symm
      _ ≤ (4 * m - lowerGap f m e : Nat) * 2 ^ (e - 2) := mul_le_mul_of_nonneg_right hone hunit.le
      _ ≤ x := h.lower
  · have hfour : ((4 * m + 2 : Nat) : ℚ) < 2 ^ (f.precision + 2) := by
      have : 4 * m + 2 < 2 ^ (f.precision + 2) := by
        rw [Nat.pow_add]
        omega
      exact_mod_cast this
    calc x ≤ (4 * m + 2 : Nat) * 2 ^ (e - 2) := h.upper
      _ < 2 ^ (f.precision + 2) * 2 ^ (e - 2) := mul_lt_mul_of_pos_right hfour hunit
      _ = 2 ^ (f.precision + e) := by
        rw [← zpow_natCast, ← zpow_add₀ two_ne_zero]
        congr 1
        push_cast
        omega

/-- The place of the first digit of `n` bounds its value. -/
theorem Numeral.bounds {n : Numeral} (hn : n.digits ≠ 0) :
    (10 : ℚ) ^ (n.exponent + (natDigits n.digits).length - 1) ≤ n.value ∧
      n.value < 10 ^ (n.exponent + (natDigits n.digits).length) := by
  have hpower : (0 : ℚ) < 10 ^ n.exponent := by positivity
  have hlength : 0 < (natDigits n.digits).length := Nat.length_toDigits_pos
  obtain ⟨hhigh, hlow⟩ := natDigits_bounds n.digits
  have hhigh : (n.digits : ℚ) < 10 ^ (natDigits n.digits).length := by exact_mod_cast hhigh
  have hlow : (10 : ℚ) ^ ((natDigits n.digits).length - 1) ≤ n.digits := by exact_mod_cast hlow hn
  rw [value]
  constructor
  · refine le_of_eq_of_le ?_ (mul_le_mul_of_nonneg_right hlow hpower.le)
    rw [← zpow_natCast, ← zpow_add₀ (by norm_num)]
    congr 1
    omega
  · refine lt_of_lt_of_eq (mul_lt_mul_of_pos_right hhigh hpower) ?_
    rw [← zpow_natCast, ← zpow_add₀ (by norm_num), add_comm]

/-- A numeral that is passed over as too large, by `farPower`, is beyond all values. -/
theorem Numeral.le_value_of_far {n : Numeral} (hn : n.digits ≠ 0)
    (h : farPower < n.exponent + (natDigits n.digits).length) : (2 : ℚ) ^ (5000 : Int) ≤ n.value := by
  have hfar : farPower = 5000 := rfl
  calc (2 : ℚ) ^ (5000 : Int) ≤ 10 ^ (5000 : Int) := zpow_le_zpow_left₀ (by norm_num) (by norm_num) (by norm_num)
    _ ≤ 10 ^ (n.exponent + (natDigits n.digits).length - 1) := zpow_le_zpow_right₀ (by norm_num) (by omega)
    _ ≤ n.value := (Numeral.bounds hn).1

/-- A numeral that is passed over as too small, by `farPower`, is below all values. -/
theorem Numeral.value_lt_of_far {n : Numeral} (hn : n.digits ≠ 0)
    (h : n.exponent + (natDigits n.digits).length < -farPower) : n.value < 2 ^ (-5000 : Int) := by
  have hfar : farPower = 5000 := rfl
  calc n.value < 10 ^ (n.exponent + (natDigits n.digits).length) := (Numeral.bounds hn).2
    _ ≤ 10 ^ (-5000 : Int) := zpow_le_zpow_right₀ (by norm_num) (by omega)
    _ ≤ 2 ^ (-5000 : Int) := by
      rw [zpow_neg, zpow_neg]
      exact inv_anti₀ (by positivity) (zpow_le_zpow_left₀ (by norm_num) (by norm_num) (by norm_num))

private theorem Numeral.toFloating_eq {n : Numeral} (hn : n.digits ≠ 0) {m : Nat} {e : Int} (hm : m ≠ 0)
    (hnormal : binary64.IsNormal m e) (hmax : e ≤ binary64.maxExp) (hnear : binary64.IsNear m e n.value) :
    n.toFloating binary64 = .finite n.negative m e := by
  obtain ⟨hlower, hupper⟩ := hnear.bounds hm hnormal.lt
  have hmin : (-1074 : Int) ≤ e := hnormal.minExp_le
  have hmax' : e ≤ 971 := hmax
  have hprecision : binary64.precision = 53 := rfl
  have hround (num den : Nat) (hnum : num ≠ 0) (hden : 0 < den) (hvalue : (num : ℚ) / den = n.value) :
      binary64.round n.negative num den = .finite n.negative m e :=
    Format.round_eq_of_isNear (by decide) n.negative hnum hden hnormal hmax (hvalue ▸ hnear)
  rw [toFloating, if_neg hn, if_neg, if_neg]
  · split
    · rename_i hwhole
      obtain ⟨k, hk⟩ := Int.eq_ofNat_of_zero_le hwhole
      refine hround _ _ (Nat.mul_ne_zero hn (Nat.pow_pos (by decide)).ne') Nat.one_pos ?_
      rw [value, hk]
      simp
    · rename_i hfraction
      obtain ⟨k, hk⟩ : ∃ k : Nat, n.exponent = -k := ⟨(-n.exponent).toNat, by omega⟩
      refine hround _ _ hn (Nat.pow_pos (by decide)) ?_
      rw [value, hk]
      simp [div_eq_mul_inv]
  -- a value of the format is too large, or too small, for a numeral that far out to be near it
  · intro hfar
    have hbelow := Numeral.value_lt_of_far hn hfar
    have habove : (2 : ℚ) ^ (-5000 : Int) ≤ 2 ^ (e - 2) := zpow_le_zpow_right₀ (by norm_num) (by omega)
    linarith
  · intro hfar
    have habove := Numeral.le_value_of_far hn hfar
    have hbelow : (2 : ℚ) ^ ((binary64.precision : Int) + e) ≤ 2 ^ (5000 : Int) :=
      zpow_le_zpow_right₀ (by norm_num) (by rw [hprecision]; omega)
    linarith

/-- A value of `binary64` in lowest position and in range. -/
structure IsDouble (m : Nat) (e : Int) : Prop extends binary64.IsNormal m e where
  le_maxExp : e ≤ binary64.maxExp

/-- A value of `binary64`, as reading numbers makes them. -/
def Floating.IsDouble : Floating → Prop
  | .finite _ m e => Decimal.IsDouble m e
  | _ => True

private theorem isDouble_round (negative : Bool) (num : Nat) {den : Nat} (hden : 0 < den) :
    (binary64.round negative num den).IsDouble := by
  cases hround : binary64.round negative num den with
  | nan => trivial
  | infinity b => trivial
  | finite b m e =>
    obtain ⟨hnormal, hmax⟩ := Format.isNormal_of_round (by decide) hden (by decide) hround
    exact ⟨hnormal, hmax⟩

private theorem isDouble_toFloating (n : Numeral) : (n.toFloating binary64).IsDouble := by
  rw [Numeral.toFloating]
  split
  · exact isDouble_round _ _ Nat.one_pos
  · split
    · trivial
    · split
      · exact isDouble_round _ _ Nat.one_pos
      · split
        · exact isDouble_round _ _ Nat.one_pos
        · exact isDouble_round _ _ (Nat.pow_pos (by decide))

/-- Whether a minus sign is in front, and what stands behind a sign. -/
def splitSign : List Char → Bool × List Char
  | '+' :: cs => (false, cs)
  | '-' :: cs => (true, cs)
  | cs => (false, cs)

theorem splitSign_of_isDigit {c : Char} {cs : List Char} (hc : c.isDigit = true) :
    splitSign (c :: cs) = (false, c :: cs) := by
  rw [splitSign]
  · rintro _ ⟨⟩
    cases hc
  · rintro _ ⟨⟩
    cases hc

theorem Format.read?_eq (f : Format) (cs : List Char) : f.read? cs =
    if cs.isEmpty then .error .empty
    else
      match Numeral.readUnsigned? (splitSign cs).1 (splitSign cs).2 with
      | some n => .ok (n.toFloating f)
      | none =>
        match specialValue? (splitSign cs).1 (splitSign cs).2 with
        | some v => .ok v
        | none => .error .invalid := rfl

private theorem isDouble_of_specialValue? {negative : Bool} {cs : List Char} {v : Floating}
    (h : specialValue? negative cs = some v) : v.IsDouble := by
  rw [specialValue?] at h
  split at h
  · cases h
    trivial
  · split at h
    · cases h
      trivial
    · cases h

/-- A number `v` that is read is a value of the format. -/
theorem isDouble_of_read? {cs : List Char} {v : Floating} (h : binary64.read? cs = .ok v) : v.IsDouble := by
  rw [Format.read?_eq] at h
  split at h
  · cases h
  · split at h
    · cases h
      exact isDouble_toFloating _
    · split at h
      · rename_i hspecial
        cases h
        exact isDouble_of_specialValue? hspecial
      · cases h

/-- However the layout `l` has a finite value, what is written is a spelling `s`, and the numeral that this is
rounds to the value. -/
theorem exists_spelling_render (l : Layout) (negative : Bool) {m : Nat} {e : Int} (h : IsDouble m e) :
    ∃ s : Spelling, s.IsProper ∧ (s.fraction ≠ [] ∨ s.power ≠ none) ∧
      (l.render binary64 (.finite negative m e)).toList = (if negative then '-' :: s.text else s.text) ∧
      (s.numeral negative).toFloating binary64 = .finite negative m e := by
  by_cases hm : m = 0
  · subst hm
    have he : e = binary64.minExp := h.full.resolve_left (by decide)
    subst he
    refine ⟨⟨['0'], ['0'], none⟩, ⟨List.cons_ne_nil _ _, isDigit_of_mem_zero, isDigit_of_mem_zero⟩,
      .inl (List.cons_ne_nil _ _), ?_, ?_⟩
    · rw [Layout.render, String.toList_ofList, if_pos rfl]
      rfl
    · cases negative <;> rfl
  · obtain ⟨hnear, hpos⟩ := Format.shortest_spec (by decide) l.tie hm h.lt e
    obtain ⟨s, hs, htext⟩ := exists_spelling_body hpos l
    have hrender : (l.render binary64 (.finite negative m e)).toList = if negative then '-' :: s.text else s.text := by
      rw [Layout.render, String.toList_ofList, if_neg hm, htext]
    refine ⟨s, hs.toIsProper, hs.fractional, hrender, ?_⟩
    refine Numeral.toFloating_eq (n := s.numeral negative) hs.digits_pos.ne' hm h.toIsNormal h.le_maxExp ?_
    have hvalue : (s.numeral negative).value = (s.numeral false).value := rfl
    rwa [hvalue, hs.value_eq]

end DatasetLint.Decimal
