import DatasetLint.Unicode.Case
import DatasetLint.Proofs.Unicode.CharSet

/-!
# Small letters and their capitals

Of the letters of ASCII, all but two are equal only to their capitals but for case: the Kelvin sign is a letter K too,
and the long s an S.
-/

namespace DatasetLint.Unicode

/-! ## Reading the table

The lines of a table are texts, which take long to take apart where a proof has to do it. They are known as lists of
characters, though, and so can be read from these. -/

private theorem cons_eq_map_ofList {s : String} {ss : List String} {l : List Char} {ls : List (List Char)}
    (h : s = String.ofList l) (hs : ss = ls.map String.ofList) : s :: ss = (l :: ls).map String.ofList := by
  rw [h, hs, List.map_cons]

private theorem ofPairs_of_spelled {α : Type} {value : List Char → α} {lines : List String} {ls : List (List Char)}
    {P : CharMap α → Prop} (hlines : lines = ls.map String.ofList) (h : P (.ofWords value (ls.flatMap words))) :
    P (.ofPairs value lines) := by
  rw [CharMap.ofPairs, hlines, List.flatMap_map]
  simpa only [String.toList_ofList] using h

/-- The `foldedPairs` that begin or end with a character of ASCII. -/
theorem foldedPairs_ascii : (foldedPairs.filter fun p => p.1.toNat < 128 || p.2.toNat < 128) =
    "ABCDEFGHIJKLMNOPQRSTUVWXYZ".toList.zip "abcdefghijklmnopqrstuvwxyz".toList ++
      [('\u017f', 's'), ('\u212a', 'k')] := by
  unfold foldedPairs foldings
  dsimp only
  apply ofPairs_of_spelled (P := fun m => (images m).filter (fun p => p.1.toNat < 128 || p.2.toNat < 128) = _)
  · repeat' first | exact List.map_nil.symm | apply cons_eq_map_ofList rfl
  · decide +kernel

/-! ## Letters in any case -/

private theorem contains_single (c d : Char) : (CharSet.single c).contains d = true ↔ d = c := by
  have hbounds : CharSet.single c = ⟨#[c.toNat, c.toNat + 1]⟩ := if_neg (Char.lt_irrefl c)
  have hruns : (CharSet.single c).runs = [(c.toNat, c.toNat + 1 - 1)] := by rw [hbounds]; rfl
  rw [CharSet.contains_iff (by rw [hbounds]; simp), hruns, ← Char.toNat_inj]
  simp only [List.mem_singleton, exists_eq_left]
  omega

/-- The small letter `c` or its capital. -/
def inAnyCase (c : Char) : CharSet := ⟨#[c.toNat - 32, c.toNat - 31, c.toNat, c.toNat + 1]⟩

/-- The small letters that equal only their capitals but for case. -/
def pairedLetters : List Char := "abcdefghijlmnopqrtuvwxyz".toList

/-- The `foldedPairs` that begin or end with such a letter `c`. -/
theorem filter_foldedPairs {c : Char} (hc : c ∈ pairedLetters) :
    (foldedPairs.filter fun p => p.1 = c || p.2 = c) = [(Char.ofNat (c.toNat - 32), c)] := by
  have hascii : ∀ p : Char × Char, (decide (p.1 = c) || decide (p.2 = c)) =
      ((decide (p.1 = c) || decide (p.2 = c)) && (decide (p.1.toNat < 128) || decide (p.2.toNat < 128))) := by
    have hsmall : (pairedLetters.all fun c => c.toNat < 128) = true := rfl
    have hlt := of_decide_eq_true (List.all_eq_true.1 hsmall c hc)
    intro p
    by_cases h1 : p.1 = c
    · simp [h1, hlt]
    · by_cases h2 : p.2 = c
      · simp [h2, hlt]
      · simp [h1, h2]
  rw [funext hascii, ← List.filter_filter, foldedPairs_ascii]
  exact of_decide_eq_true (List.all_eq_true.1 (by decide +kernel : (pairedLetters.all fun c =>
    ((_ : List (Char × Char)).filter fun p => p.1 = c || p.2 = c) = [(Char.ofNat (c.toNat - 32), c)]) = true) c hc)

theorem closeUnderCase_single {c : Char} (hc : c ∈ pairedLetters) : closeUnderCase (.single c) = inAnyCase c := by
  have hmem : ∀ d, (CharSet.single c).contains d = decide (d = c) := fun d => by
    rw [Bool.eq_iff_iff, contains_single, decide_eq_true_eq]
  have hto : (foldedPairs.filter fun p => p.2 = c) = [(Char.ofNat (c.toNat - 32), c)] := by
    have hboth : ∀ p : Char × Char, decide (p.2 = c) = (decide (p.2 = c) && (decide (p.1 = c) || decide (p.2 = c))) := by
      simp
    rw [funext hboth, ← List.filter_filter, filter_foldedPairs hc]
    exact List.filter_cons_of_pos (decide_eq_true rfl)
  have hreached : CharSet.ofList [c] = .single c := (if_neg (Char.lt_irrefl c)).symm
  unfold closeUnderCase
  simp only [hmem, filter_foldedPairs hc, List.map_cons, List.map_nil, hreached, hto]
  exact of_decide_eq_true (List.all_eq_true.1 (by decide +kernel : (pairedLetters.all fun c =>
    (CharSet.single c).union (.ofList ([c] ++ [Char.ofNat (c.toNat - 32)])) = inAnyCase c) = true) c hc)

end DatasetLint.Unicode
