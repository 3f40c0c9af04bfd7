import DatasetLint.Proofs.Yaml.Scan
import DatasetLint.Proofs.Yaml.Tagless
import DatasetLint.Text.Blank
import Mathlib.Data.List.TakeWhile

/-!
# Documents of blanks

White space of Unicode that YAML does not pass over makes scalars, and nothing else: a text of white space has no
mappings and no sequences.
-/

namespace DatasetLint

/-- A text `cs` that is empty under `trim` consists of blanks. -/
theorem Text.isBlank_of_trim_eq_nil {cs : List Char} (h : trim cs = []) : ∀ c ∈ cs, isBlank c = true := by
  rw [trim, trimEnd, List.reverse_eq_nil_iff, List.dropWhile_eq_nil_iff] at h
  refine List.dropWhile_eq_nil_iff.1 ?_
  cases hdrop : cs.dropWhile isBlank with
  | nil => rfl
  | cons c r =>
    -- what is left when the front was dropped does not begin with a blank, but it consists of blanks
    have hstop := List.head?_dropWhile_not isBlank cs
    rw [hdrop, List.head?_cons] at hstop
    rw [hdrop] at h
    cases (h c (List.mem_reverse.2 (List.mem_cons_self ..))).symm.trans hstop

namespace Yaml

private theorem Source.isBlank_annotate {m : Mark} {cs : List Char} (h : ∀ c ∈ cs, Text.isBlank c = true) :
    ∀ p ∈ (annotate m cs).1, Text.isBlank p.1 = true := by
  fun_induction annotate m cs with
  | case1 => exact nofun
  | case2 m cs r ih =>
    have hcs := (List.forall_mem_cons.1 (List.forall_mem_cons.1 h).2).2
    exact List.forall_mem_cons.2 ⟨rfl, ih hcs⟩
  | case3 m c cs _ _ r ih => exact List.forall_mem_cons.2 ⟨rfl, ih (List.forall_mem_cons.1 h).2⟩
  | case4 m c cs _ _ _ r ih =>
    obtain ⟨hc, hcs⟩ := List.forall_mem_cons.1 h
    exact List.forall_mem_cons.2 ⟨hc, ih hcs⟩
  | case5 m c cs _ _ _ _ ih =>
    obtain ⟨hc, hcs⟩ := List.forall_mem_cons.1 h
    exact List.forall_mem_cons.2 ⟨hc, ih hcs⟩

namespace Token

/-- Tokens that open nothing. -/
def isBare : Kind → Bool
  | .scalar .. | .blockEnd | .streamEnd => true
  | _ => false

namespace Scan

/-- In the scan `s` blanks are left, and the tokens so far open nothing. -/
structure Bare (s : Scan) : Prop where
  rest : ∀ p ∈ s.rest, Text.isBlank p.1 = true
  certain : ∀ t ∈ s.certain, isBare t.kind = true
  queue : ∀ t ∈ s.queue, isBare t.kind = true

variable {s t : Scan}

private theorem skipBlanks_subset (inFlow inComment keyAllowed : Bool) (r : Chars) :
    (skipBlanks inFlow inComment keyAllowed r).1 ⊆ r := by
  fun_induction skipBlanks inFlow inComment keyAllowed r with
  | case1 => exact List.nil_subset _
  | case2 _ _ c m r _ ih => exact List.subset_cons_of_subset _ ih
  | case3 _ c m r _ ih => exact List.subset_cons_of_subset _ ih
  | case4 _ _ c m r _ _ _ ih => exact List.subset_cons_of_subset _ ih
  | case5 _ _ c m r _ _ _ _ ih => exact List.subset_cons_of_subset _ ih
  | case6 => exact List.Subset.refl _

private theorem Bare.toNextToken (h : s.Bare) : s.toNextToken.Bare := by
  refine ⟨fun p hp => ?_, h.certain, h.queue⟩
  have hmem := skipBlanks_subset _ _ _ _ hp
  split at hmem
  · rename_i c m r hrest
    split at hmem
    · exact h.rest p (hrest ▸ List.mem_cons_of_mem _ hmem)
    · exact h.rest p hmem
  · cases hmem

private theorem Bare.dropStale (h : s.Bare) (ht : s.dropStale = some t) : t.Bare := by
  rw [Scan.dropStale] at ht
  split at ht
  · cases ht
  · cases ht
    exact ⟨h.rest, h.certain, h.queue⟩

private theorem Bare.dropKey (h : s.Bare) (ht : s.dropKey = some t) : t.Bare := by
  rw [Scan.dropKey] at ht
  split at ht
  · cases ht
    exact h
  · split at ht
    · cases ht
    · cases ht
      exact ⟨h.rest, h.certain, h.queue⟩

private theorem Bare.saveKey (h : s.Bare) (ht : s.saveKey = some t) : t.Bare := by
  rw [Scan.saveKey] at ht
  split at ht
  · obtain ⟨u, hu, rfl⟩ := Option.map_eq_some_iff.1 ht
    have hbare := h.dropKey hu
    exact ⟨hbare.rest, hbare.certain, hbare.queue⟩
  · cases ht
    exact h

private theorem Bare.push (h : s.Bare) {u : Token} (hu : isBare u.kind = true) : (s.push u).Bare := by
  refine ⟨h.rest, h.certain, fun v hv => ?_⟩
  rcases List.mem_append.1 hv with hv | hv
  · exact h.queue v hv
  · cases List.mem_singleton.1 hv
    exact hu

private theorem Bare.closeBlocks (h : s.Bare) (least : Option Nat) (m : Mark) : (s.closeBlocks least m).Bare := by
  rw [Scan.closeBlocks]
  split
  · exact h
  · refine ⟨h.rest, h.certain, fun v hv => ?_⟩
    rcases List.mem_append.1 hv with hv | hv
    · exact h.queue v hv
    · obtain ⟨_, -, rfl⟩ := List.mem_map.1 hv
      rfl

private theorem Bare.atEnd (h : s.Bare) (ht : s.atEnd = some t) : t.Bare := by
  obtain ⟨u, hu, rfl⟩ := Option.map_eq_some_iff.1 ht
  have hpushed := ((h.closeBlocks _ _).dropKey hu).push (u := ⟨.streamEnd, s.mark.toLineStart, s.mark.toLineStart⟩) rfl
  exact ⟨hpushed.rest, hpushed.certain, hpushed.queue⟩

private theorem plainRest_subset {x : PlainContext} {last : Mark} {afterGap : Bool} {gap : Gap} {r : Chars} {p : Plain}
    (h : plainRest x last afterGap gap r = some p) : p.rest ⊆ r := by
  fun_induction plainRest x last afterGap gap r generalizing p with
  | case1 =>
    cases h
    exact List.Subset.refl _
  | case2 => cases h
  | case3 _ _ _ c m r _ _ ih => exact List.subset_cons_of_subset _ (ih h)
  | case4 _ _ _ c m r _ _ ih => exact List.subset_cons_of_subset _ (ih h)
  | case5 => cases h
  | case6 =>
    cases h
    exact List.Subset.refl _
  | case7 _ _ _ c m r _ _ _ _ ih =>
    obtain ⟨q, hq, rfl⟩ := Option.map_eq_some_iff.1 h
    have hsubset : q.rest ⊆ r := ih hq
    exact List.subset_cons_of_subset _ hsubset

private theorem Bare.plainScalar (h : s.Bare) (ht : s.plainScalar = some t) : t.Bare := by
  rw [Scan.plainScalar] at ht
  split at ht
  · rename_i u p hu hp
    cases ht
    have hpushed := (h.saveKey hu).push (u := ⟨.scalar (String.ofList p.text) .plain, u.mark, p.stop⟩) rfl
    exact ⟨fun c hc => h.rest c (plainRest_subset hp hc), hpushed.certain, hpushed.queue⟩
  · cases ht

/-- Nothing but a plain scalar begins with a blank `c`. -/
theorem token_of_isBlank {c : Char} {m : Mark} {r : Chars} (hrest : s.rest = (c, m) :: r)
    (hc : Text.isBlank c = true) : s.token c r = if startsPlain s.inFlow c r then s.plainScalar else none := by
  have hne : ∀ d, Text.isBlank d = false → (c == d) = false := by
    intro d hd
    refine beq_eq_false_iff_ne.2 ?_
    rintro rfl
    cases hc.symm.trans hd
  have hmarker : Chars.atDocumentMarker s.rest = false := by
    rw [hrest, Chars.atDocumentMarker.eq_def]
    split
    · rename_i heq
      cases heq
      simp [hne '-' rfl, hne '.' rfl]
    · rfl
  rw [token]
  -- no blank is an indicator, so of the cases only the last is left
  simp [hmarker, hne '%' rfl, hne '[' rfl, hne '{' rfl, hne ']' rfl, hne '}' rfl, hne ',' rfl, hne '-' rfl, hne '?' rfl,
    hne ':' rfl, hne '*' rfl, hne '&' rfl, hne '!' rfl, hne '|' rfl, hne '>' rfl, hne '\'' rfl, hne '"' rfl]

private theorem Bare.fetch (h : s.Bare) (ht : s.fetch = some t) : t.Bare := by
  rw [fetch_eq] at ht
  obtain ⟨u, hu, ht⟩ := Option.bind_eq_some_iff.1 ht
  have hbare : u.Bare := by
    obtain ⟨v, hv, rfl⟩ := Option.map_eq_some_iff.1 hu
    exact (h.toNextToken.dropStale hv).closeBlocks _ _
  split at ht
  · exact hbare.atEnd ht
  · rename_i c m r hrest
    have hc : Text.isBlank c = true := hbare.rest (c, m) (by rw [hrest]; exact List.mem_cons_self ..)
    rw [token_of_isBlank hrest hc] at ht
    split at ht
    · exact hbare.plainScalar ht
    · cases ht

private theorem Bare.release (h : s.Bare) (ht : s.release = some t) : t.Bare := by
  obtain ⟨u, hu, rfl⟩ := Option.map_eq_some_iff.1 ht
  have hbare := h.dropStale hu
  have hmem : ∀ v ∈ (releaseFrom u.keys u.certain u.queue).1.reverse ++ (releaseFrom u.keys u.certain u.queue).2,
      isBare v.kind = true := by
    rw [releaseFrom_append]
    intro v hv
    rcases List.mem_append.1 hv with hv | hv
    · exact hbare.certain v (List.mem_reverse.1 hv)
    · exact hbare.queue v hv
  exact ⟨hbare.rest, fun v hv => hmem v (List.mem_append_left _ (List.mem_reverse.2 hv)),
    fun v hv => hmem v (List.mem_append_right _ hv)⟩

private theorem Bare.run (h : s.Bare) (fuel : Nat) : (run fuel s).1.Bare := by
  induction fuel generalizing s with
  | zero => exact h
  | succ fuel ih =>
    rw [Scan.run]
    split
    · exact h
    · split
      · exact h
      · rename_i t ht
        obtain ⟨u, hu, ht⟩ := Option.bind_eq_some_iff.1 ht
        exact ih ((h.fetch hu).release ht)

end Scan

end Token

/-- The tokens of a text `s` of blanks open nothing. -/
theorem TokenStream.isBare_ofText {s : String} (h : ∀ c ∈ s.toList, Text.isBlank c = true) :
    ∀ t ∈ (ofText s).tokens, Token.isBare t.kind = true := by
  rw [ofText]
  split
  · have hstart : Token.Scan.Bare
        { rest := (Source.ofText s).chars, stop := (Source.ofText s).stop, certain := [], queue := [], blocks := []
          keys := [none], keyAllowed := true, done := false } :=
      ⟨Source.isBlank_annotate h, fun _ h => absurd h List.not_mem_nil, fun _ h => absurd h List.not_mem_nil⟩
    exact fun t ht => (hstart.run _).certain t (List.mem_reverse.1 ht)
  · exact fun _ h => absurd h List.not_mem_nil

namespace Document

open Token

private theorem node_of_isBare (handles : Handles) (n : Nat) {ts : List Token} (h : ∀ t ∈ ts, isBare t.kind = true) :
    (Grammar.node handles true false (n + 1) ts []).value = .broken ∨
      ∃ m t style, (Grammar.node handles true false (n + 1) ts []).value = .scalar m none none t style := by
  cases ts with
  | nil => exact .inl rfl
  | cons t ts =>
    obtain ⟨k, m, m'⟩ := t
    have hk := h _ (List.mem_cons_self ..)
    cases k with
    | scalar text style => exact .inr ⟨m, text, style, rfl⟩
    | blockEnd => exact .inl rfl
    | streamEnd => exact .inl rfl
    | _ => cases hk

/-- The document of the tokens `ts`, which open nothing, has no collection for its node. -/
theorem root_of_isBare {ts : List Token} (h : ∀ t ∈ ts, isBare t.kind = true) :
    ∀ x ∈ (ofTokens ts).root, x = .broken ∨ ∃ m t style, x = .scalar m none none t style := by
  -- no such token opens a document
  have hexplicit : isExplicit ts = false := by
    cases ts with
    | nil => rfl
    | cons t ts =>
      obtain ⟨k, m, m'⟩ := t
      have hk := h _ (List.mem_cons_self ..)
      cases k with
      | scalar text style => rfl
      | blockEnd => rfl
      | streamEnd => rfl
      | _ => cases hk
  rw [ofTokens, hexplicit]
  split
  · rintro _ ⟨⟩
    exact .inl rfl
  · split
    · rintro _ ⟨⟩
    · rw [Bool.not_false, if_pos rfl, root_ofRoot]
      rintro _ ⟨⟩
      exact node_of_isBare _ _ h

end Document

end Yaml

end DatasetLint
