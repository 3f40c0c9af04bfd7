import DatasetLint.Proofs.Yaml.Layout
import DatasetLint.Proofs.Yaml.Places

/-!
# Documents of one entry

A short key and a value, both plain, with a colon and a space between them: the document is a mapping of the two
scalars, and it is read as the mapping of what they mean.
-/

namespace DatasetLint.Yaml

open Writer Token

/-- A text `t` that can stand plain in the line of an entry. -/
structure IsPlain (t : String) : Prop where
  ne_nil : t.toList ≠ []
  allowed : plainAllowed t.toList = true

namespace IsPlain

variable {t : String}

private theorem admits (h : IsPlain t) (asKey : Bool) : Admits asKey t.toList .plain := .plain h.ne_nil h.allowed

private theorem printed (h : IsPlain t) : Printed t.toList := (plainAllowed_iff.1 h.allowed).2.1

private theorem not_isBreak (h : IsPlain t) : ∀ c ∈ t.toList, isBreak c = false := (plainAllowed_iff.1 h.allowed).2.2.1

private theorem atToken (h : IsPlain t) : AtToken t.toList := atToken_scalarText (h.admits true) 0

end IsPlain

/-! ## Numerals -/

/-- Letters, digits, signs and points. -/
def isNumeral (c : Char) : Bool := c.isAlphanum || c == '+' || c == '-' || c == '.'

theorem isAlphanum_iff {c : Char} : c.isAlphanum = true ↔
    (65 ≤ c.toNat ∧ c.toNat ≤ 90) ∨ (97 ≤ c.toNat ∧ c.toNat ≤ 122) ∨ (48 ≤ c.toNat ∧ c.toNat ≤ 57) := by
  have hclasses : c.isAlphanum = (decide (65 ≤ c.val ∧ c.val ≤ 90) || decide (97 ≤ c.val) && decide (c.val ≤ 122) ||
      decide (48 ≤ c.val) && decide (c.val ≤ 57)) := rfl
  rw [hclasses]
  simp only [Bool.or_eq_true, Bool.and_eq_true, decide_eq_true_eq, UInt32.le_iff_toNat_le, or_assoc]
  exact Iff.rfl

theorem isAlphanum_of_digitValue {radix : Nat} {c : Char} (h : (Decimal.digitValue radix c).isSome = true) :
    c.isAlphanum = true := by
  rw [isAlphanum_iff]
  rw [Decimal.digitValue] at h
  split at h
  · exact .inr (.inr ‹_›)
  · split at h
    · exact .inr (.inl ‹_›)
    · split at h
      · exact .inl ‹_›
      · cases h

section Numerals

variable {c : Char} (h : isNumeral c = true)

include h

private theorem toNat_of_isNumeral : 43 ≤ c.toNat ∧ c.toNat ≤ 122 := by
  simp only [isNumeral, Bool.or_eq_true, beq_iff_eq, isAlphanum_iff] at h
  rcases h with ((h | rfl) | rfl) | rfl
  · omega
  · decide
  · decide
  · decide

private theorem isPrintable_of_isNumeral : isPrintable c = true := by
  have hrange := toNat_of_isNumeral h
  exact isPrintable_iff.2 (by omega)

private theorem isBlank_of_isNumeral : Text.isBlank c = false := by
  have hrange := toNat_of_isNumeral h
  simp only [Text.isBlank, Bool.or_eq_false_iff, Bool.and_eq_false_iff, decide_eq_false_iff_not, beq_eq_false_iff_ne]
  omega

private theorem isSpacing_of_isNumeral : isSpacing c = false := by
  rw [isSpacing_eq_of_isPrintable (isPrintable_of_isNumeral h), Bool.eq_false_iff]
  intro hspacing
  simp only [isGap, isBreak, isSeparator, Bool.or_eq_true, beq_iff_eq, or_assoc] at hspacing
  rcases hspacing with rfl | rfl | rfl | rfl | rfl <;> cases h

private theorem isLeadIndicator_of_isNumeral : isLeadIndicator c = false := by
  rw [Bool.eq_false_iff]
  intro hlead
  simp only [isLeadIndicator, Bool.or_eq_true, beq_iff_eq, or_assoc] at hlead
  rcases hlead with rfl | rfl | rfl | rfl | rfl | rfl | rfl | rfl | rfl | rfl | rfl | rfl | rfl | rfl | rfl | rfl <;>
    cases h

end Numerals

private theorem hasInnerIndicator_of_isNumeral {cs : List Char} (h : ∀ c ∈ cs, isNumeral c = true) (spaced : Bool) :
    hasInnerIndicator spaced cs = false := by
  induction cs generalizing spaced with
  | nil => rfl
  | cons c cs ih =>
    obtain ⟨hc, hcs⟩ := List.forall_mem_cons.1 h
    have hcolon : (c == ':') = false := beq_eq_false_iff_ne.2 (ne_of_class hc rfl)
    have hhash : (c == '#') = false := beq_eq_false_iff_ne.2 (ne_of_class hc rfl)
    rw [hasInnerIndicator, hcolon, hhash, ih hcs]
    rfl

private theorem hasPair_space_of_isNumeral {cs : List Char} (h : ∀ c ∈ cs, isNumeral c = true) :
    hasPair (· == ' ') endsLine cs = false := by
  induction cs with
  | nil => rfl
  | cons c cs ih =>
    obtain ⟨hc, hcs⟩ := List.forall_mem_cons.1 h
    have hspace : (c == ' ') = false := beq_eq_false_iff_ne.2 (ne_of_class hc rfl)
    rw [hasPair_cons, hspace, ih hcs]
    rfl

/-- Where a minus sign or a point comes first, something other than it comes second: no marker of a document begins
so, nor does an item. -/
theorem hasIndicator_of_isNumeral {c : Char} {cs : List Char} (h : ∀ d ∈ c :: cs, isNumeral d = true)
    (hsecond : c = '-' ∨ c = '.' → ∃ d ds, cs = d :: ds ∧ d ≠ c) : hasIndicator (c :: cs) = false := by
  obtain ⟨hc, hcs⟩ := List.forall_mem_cons.1 h
  have hmarker : ∀ d, d = '-' ∨ d = '.' → [d, d, d].isPrefixOf (c :: cs) = false := by
    intro d hd
    rw [List.isPrefixOf_cons_cons, Bool.and_eq_false_imp, beq_iff_eq]
    rintro rfl
    obtain ⟨e, ds, rfl, he⟩ := hsecond hd
    rw [List.isPrefixOf_cons_cons, beq_eq_false_iff_ne.2 he.symm, Bool.false_and]
  have hspacing : ((c == '?' || c == ':' || c == '-') && spacingNext cs) = false := by
    rw [beq_eq_false_iff_ne.2 (ne_of_class hc rfl : c ≠ '?'), beq_eq_false_iff_ne.2 (ne_of_class hc rfl : c ≠ ':'),
      Bool.or_self, Bool.false_or, Bool.and_eq_false_imp, beq_iff_eq]
    intro hminus
    obtain ⟨d, ds, rfl, -⟩ := hsecond (.inl hminus)
    exact isSpacing_of_isNumeral (hcs d (List.mem_cons_self ..))
  rw [hasIndicator, hmarker '-' (.inl rfl), hmarker '.' (.inr rfl), isLeadIndicator_of_isNumeral hc, hspacing,
    hasInnerIndicator_of_isNumeral hcs]
  rfl

/-- The number `cs` is what is left of it between blanks. -/
theorem trim_of_isNumeral {cs before after : List Char} (h : ∀ c ∈ cs, isNumeral c = true)
    (hbefore : ∀ c ∈ before, Text.isBlank c = true) (hafter : ∀ c ∈ after, Text.isBlank c = true) :
    Text.trim (before ++ cs ++ after) = cs :=
  Text.trim_append hbefore hafter (fun c hc => isBlank_of_isNumeral (h c (List.mem_of_head? hc)))
    fun c hc => isBlank_of_isNumeral (h c (List.mem_of_getLast? hc))

/-- Numbers `t` stand plain. -/
theorem isPlain_of_isNumeral {t : String} {c : Char} {cs : List Char} (htext : t.toList = c :: cs)
    (h : ∀ d ∈ c :: cs, isNumeral d = true) (hsecond : c = '-' ∨ c = '.' → ∃ d ds, cs = d :: ds ∧ d ≠ c) : IsPlain t := by
  refine ⟨by rw [htext]; exact List.cons_ne_nil c cs, ?_⟩
  have hbreak : ∀ d ∈ c :: cs, isBreak d = false ∧ (d == ' ') = false := by
    intro d hd
    have hspacing := isSpacing_of_isNumeral (h d hd)
    rw [isSpacing_eq_of_isPrintable (isPrintable_of_isNumeral (h d hd)), Bool.or_eq_false_iff] at hspacing
    exact ⟨hspacing.2, beq_eq_false_iff_ne.2 (ne_of_class (h d hd) rfl)⟩
  have hborder : ∀ d ∈ c :: cs, (d == ' ' || endsLine d) = false := by
    intro d hd
    rw [endsLine_eq_isBreak (isPrintable_of_isNumeral (h d hd)), (hbreak d hd).1, (hbreak d hd).2]
    rfl
  rw [htext]
  refine plainAllowed_iff.2 ⟨?_, fun d hd => isPrintable_of_isNumeral (h d hd), fun d hd => (hbreak d hd).1,
    hasPair_space_of_isNumeral h, hasIndicator_of_isNumeral h hsecond⟩
  rw [bordered, Bool.or_eq_false_iff]
  refine ⟨hborder c (List.mem_cons_self ..), ?_⟩
  cases hlast : (c :: cs).getLast? with
  | none => rfl
  | some d => exact hborder d (List.mem_of_getLast? hlast)

/-- The key `k` and the value `t` on a line. -/
def entryLine (k t : String) : String := k ++ ": " ++ t ++ "\n"

variable {k t : String}

private theorem toList_entryLine (k t : String) : (entryLine k t).toList = k.toList ++ ':' ::
    [' '] ++ (t.toList ++ ['\n']) := by
  simp [entryLine]

namespace Token.Scan

/-- The key `k` is read up to the blank behind its colon, and the value `t` up to the end of the line. -/
theorem reads_entryLine (hk : IsPlain k) (hsize : k.utf8ByteSize ≤ simpleKeyLimit) (ht : IsPlain t) :
    Reads [] .start (entryLine k t).toList ⟨[], true⟩
      [.blockMappingStart, .key, .scalar k .plain, .value, .scalar t .plain] ⟨[0], true⟩ := by
  let behind := Mark.through .start (k.toList ++ ':' :: [' '])
  have hcolumn : 0 < behind.column := by
    change 0 < (Mark.through .start (k.toList ++ ':' :: [' '])).column
    rw [Mark.through_append, Mark.through_of_not_isBreak hk.not_isBreak]
    exact Nat.succ_pos _
  have hnext : AtToken (t.toList ++ ['\n'] ++ []) := by
    rw [List.append_assoc]
    exact atToken_append ht.ne_nil ht.atToken _
  -- first the key with its colon and a blank, then the value with the line end
  have hkey : Reads (t.toList ++ ['\n'] ++ []) .start (k.toList ++ ':' :: [' ']) ⟨[], true⟩
      [.blockMappingStart, .key, .scalar (String.ofList k.toList) .plain, .value] ⟨[0], false⟩ :=
    reads_key Nat.one_pos (hk.admits true) hk.not_isBreak (by rwa [String.ofList_toList]) rfl (by decide)
      (List.forall_mem_singleton.2 rfl) hnext (Nat.zero_le _)
  have hvalue : Reads [] behind (t.toList ++ lineEnd t.toList ++ spaces 0) ⟨[0], false⟩
      [.scalar (String.ofList t.toList) .plain] ⟨[0], true⟩ :=
    reads_scalar hcolumn (Nat.le_refl 0) atToken_nil (ht.admits false)
  have hline : lineEnd t.toList = ['\n'] := by
    have hend := lineEnd_scalarText (ht.admits false) 2
    rwa [if_neg (by decide)] at hend
  rw [hline, spaces, List.replicate_zero, List.append_nil, String.ofList_toList] at hvalue
  rw [String.ofList_toList] at hkey
  rw [toList_entryLine]
  exact hkey.trans hvalue

/-- The tokens of the line. -/
theorem kinds_entryLine (hk : IsPlain k) (hsize : k.utf8ByteSize ≤ simpleKeyLimit) (ht : IsPlain t) :
    (TokenStream.ofText (entryLine k t)).tokens.map (·.kind) =
      [.blockMappingStart, .key, .scalar k .plain, .value, .scalar t .plain, .blockEnd, .streamEnd] := by
  have hprint : Printed (entryLine k t).toList := by
    rw [toList_entryLine]
    simp only [printed_append, printed_cons]
    exact ⟨⟨hk.printed, rfl, rfl, printed_nil⟩, ht.printed, rfl, printed_nil⟩
  have htoken : AtToken (entryLine k t).toList := by
    rw [toList_entryLine, List.append_assoc]
    exact atToken_append hk.ne_nil hk.atToken _
  exact TokenStream.kinds_ofText hprint htoken (reads_entryLine hk hsize ht)

end Token.Scan

/-- The document of an `entryLine` is a mapping with the two scalars. -/
theorem Document.ofText_entryLine (hk : IsPlain k) (hsize : k.utf8ByteSize ≤ simpleKeyLimit) (ht : IsPlain t) :
    ∃ m m₁ m₂, Document.ofText (entryLine k t) =
      ⟨some (.mapping m none none [(.scalar m₁ none none k .plain, .scalar m₂ none none t .plain)]), true, false⟩ := by
  have hkinds := Token.Scan.kinds_entryLine hk hsize ht
  simp only [List.map_eq_cons_iff, List.map_eq_nil_iff] at hkinds
  obtain ⟨⟨_, m, _⟩, _, htokens, rfl, ⟨_, _, _⟩, _, rfl, rfl, ⟨_, m₁, _⟩, _, rfl, rfl, ⟨_, _, _⟩, _, rfl, rfl,
    ⟨_, m₂, _⟩, _, rfl, rfl, ⟨_, _, _⟩, _, rfl, rfl, ⟨_, _, _⟩, _, rfl, rfl, rfl⟩ := hkinds
  refine ⟨m, m₁, m₂, ?_⟩
  rw [Document.ofText, htokens]
  rfl

/-! ## Its value -/

private theorem Read.bind_of_ok {α β : Type} {refs : References} {n l : Nat} {x : Read α} {f : α → Read β} {a : α}
    (h : x refs n = .ok (a, l)) : (x >>= f) refs n = f a refs l := by
  change (x refs n >>= fun p => f p.1 refs p.2) = _
  rw [h]
  rfl

/-- The document `doc` with nothing behind it is read as what its node is read as. -/
theorem Document.read_of_ok {α : Type} {r : Reader α} {doc : Document} {a : α} {n : Nat}
    (h : r depthLimit .root doc.node doc.references 0 = .ok (a, n)) (hcomplete : doc.complete = true)
    (hmore : doc.more = false) : doc.read r = .ok a := by
  rw [Document.read_eq, h]
  dsimp only
  rw [hcomplete, hmore]
  rfl

namespace Reader

variable {refs : References} {n : Nat}

private theorem scalarValue_plain (h : ∀ i, Scalar.ofPlain t = .int i → Scalar.isWordSized i = true) :
    scalarValue none t .plain refs n = .ok (.scalar (.ofPlain t), n) := by
  have hmeaning : Node.scalarMeaning none t .plain = .ok (.ofPlain t) := rfl
  rw [scalarValue, hmeaning]
  cases hplain : Scalar.ofPlain t with
  | int i =>
    dsimp only
    rw [if_pos (h i hplain)]
    rfl
  | null => rfl
  | bool b => rfl
  | float v => rfl
  | string u => rfl

/-- A plain scalar `t` is read at any depth. -/
theorem value_plain (h : ∀ i, Scalar.ofPlain t = .int i → Scalar.isWordSized i = true) (d : Nat) (path : Path) (m : Mark)
    (anchor : Option Nat) : value d path (.scalar m anchor none t .plain) refs n = .ok (.scalar (.ofPlain t), n) := by
  have hcontent : ∀ below, (Read.located ⟨m, path⟩ (content below path (.scalar m anchor none t .plain))) refs n =
      .ok (.scalar (.ofPlain t), n) := by
    intro below
    have hscalar : content below path (.scalar m anchor none t .plain) refs n = .ok (.scalar (.ofPlain t), n) :=
      scalarValue_plain h
    rw [Read.located, hscalar]
  cases d with
  | zero => exact hcontent none
  | succ d => exact hcontent (some (value d))

end Reader

/-- The document of an `entryLine` is read as the mapping of what `k` and `t` mean. -/
theorem read_entryLine (hk : IsPlain k) (hsize : k.utf8ByteSize ≤ simpleKeyLimit) (ht : IsPlain t)
    (hkey : ∀ i, Scalar.ofPlain k = .int i → Scalar.isWordSized i = true)
    (hvalue : ∀ i, Scalar.ofPlain t = .int i → Scalar.isWordSized i = true) :
    readText Reader.value (entryLine k t) = .ok (.mapping [(.scalar (.ofPlain k), .scalar (.ofPlain t))]) := by
  obtain ⟨m, m₁, m₂, hdocument⟩ := Document.ofText_entryLine hk hsize ht
  have hentries : ∀ refs, Reader.valueEntries (Reader.value 127) .root []
      [(.scalar m₁ none none k .plain, .scalar m₂ none none t .plain)] refs 0 =
        .ok ([(.scalar (.ofPlain k), .scalar (.ofPlain t))], 0) := by
    intro refs
    rw [Reader.valueEntries, Read.bind_of_ok (Reader.value_plain hkey ..)]
    change (Reader.value 127 _ (.scalar m₂ none none t .plain) >>= fun a => _) refs 0 = _
    rw [Read.bind_of_ok (Reader.value_plain hvalue ..)]
    rfl
  have hread : ∀ refs, Reader.value depthLimit .root
      (.mapping m none none [(.scalar m₁ none none k .plain, .scalar m₂ none none t .plain)]) refs 0 =
        .ok (.mapping [(.scalar (.ofPlain k), .scalar (.ofPlain t))], 0) := by
    intro refs
    change Read.located _ (Value.mapping <$> Reader.valueEntries (Reader.value 127) .root [] _) refs 0 = _
    rw [Read.located, ← bind_pure_comp, Read.bind_of_ok (hentries refs)]
    rfl
  rw [readText, hdocument]
  exact Document.read_of_ok (hread _) rfl rfl

end DatasetLint.Yaml
