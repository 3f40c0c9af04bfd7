import DatasetLint.Pattern.Regex
import Mathlib.Data.List.Forall2

/-!
# What the groups of an expression capture

An expression matches a part of a text between what is before and what is behind that part. Besides, its groups
match parts of that part. Told so, a sequence of expressions matches a part that is cut accordingly, and the places
of a text at which an expression matches are the ends of such parts.
-/

namespace DatasetLint.Pattern.Regex

/-- `Captures e l p r gs`: in a text `l ++ p ++ r` the expression matches the part `p`, and the groups that it goes
through match `gs` in turn. -/
inductive Captures : Regex → List Char → List Char → List Char → List (List Char) → Prop where
  | empty {l r : List Char} : Captures .empty l [] r []
  | literal {c : Char} {l r : List Char} : Captures (.literal c) l [c] r []
  | set {s : Unicode.CharSet} {c : Char} {l r : List Char} (hc : s.contains c = true) : Captures (.set s) l [c] r []
  | look {k : Look} {l r : List Char} (h : k.holds l.getLast? r.head? = true) : Captures (.look k) l [] r []
  | capture {e : Regex} {l p r : List Char} {gs : List (List Char)} (h : Captures e l p r gs) :
      Captures (.capture e) l p r (p :: gs)
  | seq {a b : Regex} {l p q r : List Char} {gs hs : List (List Char)} (h : Captures a l p (q ++ r) gs)
      (h' : Captures b (l ++ p) q r hs) : Captures (.seq a b) l (p ++ q) r (gs ++ hs)
  | altLeft {a b : Regex} {l p r : List Char} {gs : List (List Char)} (h : Captures a l p r gs) :
      Captures (.alt a b) l p r gs
  | altRight {a b : Regex} {l p r : List Char} {gs : List (List Char)} (h : Captures b l p r gs) :
      Captures (.alt a b) l p r gs
  | repDone {e : Regex} {most : Option Nat} {l r : List Char} : Captures (.rep e 0 most) l [] r []
  | repMust {e : Regex} {n : Nat} {most : Option Nat} {l p q r : List Char} {gs hs : List (List Char)}
      (h : Captures e l p (q ++ r) gs) (h' : Captures (.rep e n (most.map (· - 1))) (l ++ p) q r hs)
      (hm : most ≠ some 0) : Captures (.rep e (n + 1) most) l (p ++ q) r (gs ++ hs)
  | repMay {e : Regex} {most : Option Nat} {l p q r : List Char} {gs hs : List (List Char)}
      (h : Captures e l p (q ++ r) gs) (h' : Captures (.rep e 0 (most.map (· - 1))) (l ++ p) q r hs)
      (hm : most ≠ some 0) : Captures (.rep e 0 most) l (p ++ q) r (gs ++ hs)

/-! ## Places -/

private theorem leftOf_append (l r : List Char) : leftOf (l ++ r).toArray l.length = l.getLast? := by
  rcases List.eq_nil_or_concat l with rfl | ⟨l, c, rfl⟩
  · rfl
  · simp [leftOf]

private theorem rightOf_append (l r : List Char) : (l ++ r).toArray[l.length]? = r.head? := by
  rw [List.getElem?_toArray, List.getElem?_append_right (Nat.le_refl _), Nat.sub_self, List.head?_eq_getElem?]

/-- A match from `i` to `j` never goes back, and never beyond the text. -/
theorem Matches.le {t : Subject} {e : Regex} {i j : Nat} (h : Matches t e i j) : i ≤ j ∧ j ≤ max i t.size := by
  have hlt : ∀ {i c}, t[i]? = some c → i < t.size := fun hc => (Array.getElem?_eq_some_iff.1 hc).1
  induction h with
  | empty => omega
  | literal hc =>
    have := hlt hc
    omega
  | set hc =>
    have := hlt hc
    omega
  | look => omega
  | capture _ ih => exact ih
  | altLeft _ ih => exact ih
  | altRight _ ih => exact ih
  | repDone => omega
  | seq _ _ ih ih' => omega
  | repMust _ _ _ ih ih' => omega
  | repMay _ _ _ ih ih' => omega

/-- What `e` matches from a place of the text lies between places of the text. -/
theorem Matches.bounds {t : Subject} {e : Regex} {i j : Nat} (h : Matches t e i j) (hi : i ≤ t.size) :
    i ≤ j ∧ j ≤ t.size := by
  have := h.le
  omega

variable {e : Regex} {l p r : List Char} {gs : List (List Char)}

private theorem Captures.matches (h : Captures e l p r gs) :
    Matches (l ++ p ++ r).toArray e l.length (l.length + p.length) := by
  induction h with
  | empty => exact .empty _
  | literal => exact .literal (by simp)
  | set hc => exact .set (by simp) hc
  | look h =>
    refine .look ?_
    rw [List.append_nil, leftOf_append, rightOf_append]
    exact h
  | capture _ ih => exact .capture ih
  | altLeft _ ih => exact .altLeft ih
  | altRight _ ih => exact .altRight ih
  | repDone => exact .repDone _
  | seq _ _ ih ih' =>
    refine .seq (by simpa using ih) ?_
    simpa [Nat.add_assoc] using ih'
  | repMust _ _ hm ih ih' =>
    refine .repMust (by simpa using ih) ?_ hm
    simpa [Nat.add_assoc] using ih'
  | repMay _ _ hm ih ih' =>
    refine .repMay (by simpa using ih) ?_ hm
    simpa [Nat.add_assoc] using ih'

/-- A place `j` in the part `p` of a text cuts it. -/
theorem exists_cut {j : Nat} (hj : l.length ≤ j) (hj' : j ≤ l.length + p.length) :
    ∃ q s, p = q ++ s ∧ j = l.length + q.length := by
  refine ⟨p.take (j - l.length), p.drop (j - l.length), (List.take_append_drop ..).symm, ?_⟩
  rw [List.length_take]
  omega

/-- A part `p` of one character `c`, of which the place is known. -/
theorem eq_singleton {c : Char} (hc : (l ++ p ++ r).toArray[l.length]? = some c)
    (hlength : l.length + 1 = l.length + p.length) : p = [c] := by
  obtain ⟨d, rfl⟩ := List.length_eq_one_iff.1 (by omega : p.length = 1)
  simpa using hc

/-- `e` captures something of every part of `t` that lies between the places `i` and `j`. -/
def CapturesAt (t : Subject) (e : Regex) (i j : Nat) : Prop :=
  ∀ l p r, t = (l ++ p ++ r).toArray → i = l.length → j = l.length + p.length → ∃ gs, Captures e l p r gs

/-- Where `a` is followed by `b`, the part is cut at the place `j` between them. -/
theorem CapturesAt.cut {t : Subject} {a b : Regex} {i j k : Nat} (ha : Matches t a i j) (hb : Matches t b j k)
    (hi : i ≤ t.size) (iha : i ≤ t.size → CapturesAt t a i j) (ihb : j ≤ t.size → CapturesAt t b j k)
    (ht : t = (l ++ p ++ r).toArray) (hl : i = l.length) (hp : k = l.length + p.length) :
    ∃ q s gs hs, p = q ++ s ∧ Captures a l q (s ++ r) gs ∧ Captures b (l ++ q) s r hs := by
  obtain ⟨hij, hj⟩ := ha.bounds hi
  have hjk := (hb.bounds hj).1
  obtain ⟨q, s, rfl, hq⟩ := exists_cut (hl ▸ hij) (hp ▸ hjk)
  obtain ⟨gs, hgs⟩ := iha hi l q (s ++ r) (by simpa using ht) hl hq
  obtain ⟨hs, hhs⟩ := ihb hj (l ++ q) s r (by simpa using ht) (by simpa using hq) (by simpa [Nat.add_assoc] using hp)
  exact ⟨q, s, gs, hs, rfl, hgs, hhs⟩

private theorem Matches.capturesAt {t : Subject} {i j : Nat} (h : Matches t e i j) (hi : i ≤ t.size) :
    CapturesAt t e i j := by
  -- along the match; where one part follows another the text is cut at the place between them
  induction h with
  | empty i =>
    intro l p r ht hl hp
    obtain rfl : p = [] := List.length_eq_zero_iff.1 (by omega)
    exact ⟨[], .empty⟩
  | literal hc =>
    intro l p r ht hl hp
    subst ht hl
    obtain rfl := eq_singleton hc hp
    exact ⟨[], .literal⟩
  | set hc hs =>
    intro l p r ht hl hp
    subst ht hl
    obtain rfl := eq_singleton hc hp
    exact ⟨[], .set hs⟩
  | look hk =>
    intro l p r ht hl hp
    obtain rfl : p = [] := List.length_eq_zero_iff.1 (by omega)
    rw [ht, hl, List.append_nil, leftOf_append, rightOf_append] at hk
    exact ⟨[], .look hk⟩
  | capture _ ih =>
    intro l p r ht hl hp
    obtain ⟨gs, hgs⟩ := ih hi l p r ht hl hp
    exact ⟨p :: gs, .capture hgs⟩
  | altLeft _ ih =>
    intro l p r ht hl hp
    obtain ⟨gs, hgs⟩ := ih hi l p r ht hl hp
    exact ⟨gs, .altLeft hgs⟩
  | altRight _ ih =>
    intro l p r ht hl hp
    obtain ⟨gs, hgs⟩ := ih hi l p r ht hl hp
    exact ⟨gs, .altRight hgs⟩
  | repDone i =>
    intro l p r ht hl hp
    obtain rfl : p = [] := List.length_eq_zero_iff.1 (by omega)
    exact ⟨[], .repDone⟩
  | seq ha hb iha ihb =>
    intro l p r ht hl hp
    obtain ⟨q, s, gs, hs, rfl, hgs, hhs⟩ := CapturesAt.cut ha hb hi iha ihb ht hl hp
    exact ⟨gs ++ hs, .seq hgs hhs⟩
  | repMust ha hb hm iha ihb =>
    intro l p r ht hl hp
    obtain ⟨q, s, gs, hs, rfl, hgs, hhs⟩ := CapturesAt.cut ha hb hi iha ihb ht hl hp
    exact ⟨gs ++ hs, .repMust hgs hhs hm⟩
  | repMay ha hb hm iha ihb =>
    intro l p r ht hl hp
    obtain ⟨q, s, gs, hs, rfl, hgs, hhs⟩ := CapturesAt.cut ha hb hi iha ihb ht hl hp
    exact ⟨gs ++ hs, .repMay hgs hhs hm⟩

/-- `e` matches between two places of the text `t` just where its groups capture something. -/
theorem matches_iff {t : List Char} : (∃ i j, i ≤ t.length ∧ Matches t.toArray e i j) ↔
    ∃ l p r gs, t = l ++ p ++ r ∧ Captures e l p r gs := by
  constructor
  · rintro ⟨i, j, hi, h⟩
    obtain ⟨hij, hj⟩ := h.bounds (by simpa using hi)
    have hj : j ≤ t.length := by simpa using hj
    have ht : t = t.take i ++ (t.drop i).take (j - i) ++ (t.drop i).drop (j - i) := by
      rw [List.append_assoc, List.take_append_drop, List.take_append_drop]
    have hl : i = (t.take i).length := by
      rw [List.length_take]
      omega
    have hp : j = (t.take i).length + ((t.drop i).take (j - i)).length := by
      rw [List.length_take, List.length_take, List.length_drop]
      omega
    obtain ⟨gs, hgs⟩ := h.capturesAt (by simpa using hi) _ _ _ (congrArg _ ht) hl hp
    exact ⟨_, _, _, gs, ht, hgs⟩
  · rintro ⟨l, p, r, gs, rfl, h⟩
    refine ⟨l.length, _, ?_, h.matches⟩
    rw [List.length_append, List.length_append]
    omega

/-! ## Expressions taken apart -/

/-- `Captures` for expressions one after the other. -/
inductive CapturesAll : List Regex → List Char → List Char → List Char → List (List Char) → Prop where
  | nil {l r : List Char} : CapturesAll [] l [] r []
  | cons {e : Regex} {es : List Regex} {l p q r : List Char} {gs hs : List (List Char)}
      (h : Captures e l p (q ++ r) gs) (h' : CapturesAll es (l ++ p) q r hs) :
      CapturesAll (e :: es) l (p ++ q) r (gs ++ hs)

theorem captures_seq_iff {a b : Regex} : Captures (.seq a b) l p r gs ↔ ∃ q s hs is, p = q ++ s ∧ gs = hs ++ is ∧
    Captures a l q (s ++ r) hs ∧ Captures b (l ++ q) s r is := by
  constructor
  · intro h
    cases h with
    | seq h h' => exact ⟨_, _, _, _, rfl, rfl, h, h'⟩
  · rintro ⟨q, s, hs, is, rfl, rfl, h, h'⟩
    exact .seq h h'

theorem captures_look_iff {k : Look} :
    Captures (.look k) l p r gs ↔ gs = [] ∧ p = [] ∧ k.holds l.getLast? r.head? = true := by
  constructor
  · intro h
    cases h with
    | look h => exact ⟨rfl, rfl, h⟩
  · rintro ⟨rfl, rfl, h⟩
    exact .look h

theorem captures_alt_iff {a b : Regex} : Captures (.alt a b) l p r gs ↔ Captures a l p r gs ∨ Captures b l p r gs := by
  constructor
  · intro h
    cases h with
    | altLeft h => exact .inl h
    | altRight h => exact .inr h
  · exact fun h => h.elim .altLeft .altRight

theorem captures_capture_iff : Captures (.capture e) l p r gs ↔ ∃ hs, gs = p :: hs ∧ Captures e l p r hs := by
  constructor
  · intro h
    cases h with
    | capture h => exact ⟨_, rfl, h⟩
  · rintro ⟨hs, rfl, h⟩
    exact .capture h

theorem capturesAll_cons_iff {es : List Regex} : CapturesAll (e :: es) l p r gs ↔ ∃ q s hs is, p = q ++ s ∧
    gs = hs ++ is ∧ Captures e l q (s ++ r) hs ∧ CapturesAll es (l ++ q) s r is := by
  constructor
  · intro h
    cases h with
    | cons h h' => exact ⟨_, _, _, _, rfl, rfl, h, h'⟩
  · rintro ⟨q, s, hs, is, rfl, rfl, h, h'⟩
    exact .cons h h'

theorem captures_foldl_iff {es : List Regex} : Captures (es.foldl .seq e) l p r gs ↔ CapturesAll (e :: es) l p r gs := by
  -- the fold takes each further expression into the first one, so the induction is for any first one
  induction es generalizing e p gs with
  | nil =>
    rw [List.foldl_nil, capturesAll_cons_iff]
    constructor
    · intro h
      exact ⟨p, [], gs, [], by simp, by simp, by simpa using h, .nil⟩
    · rintro ⟨q, s, hs, is, rfl, rfl, h, ⟨⟩⟩
      simpa using h
  | cons f es ih =>
    rw [List.foldl_cons, ih, capturesAll_cons_iff]
    constructor
    · rintro ⟨q, s, hs, is, rfl, rfl, h, hes⟩
      obtain ⟨q₁, q₂, gs₁, gs₂, rfl, rfl, he, hf⟩ := captures_seq_iff.1 h
      rw [← List.append_assoc] at hes
      rw [List.append_assoc, List.append_assoc]
      exact .cons (by simpa using he) (.cons hf hes)
    · intro h
      obtain ⟨q, s, hs, is, rfl, rfl, he, h'⟩ := capturesAll_cons_iff.1 h
      obtain ⟨q₁, q₂, gs₁, gs₂, rfl, rfl, hf, hes⟩ := capturesAll_cons_iff.1 h'
      refine ⟨q ++ q₁, q₂, hs ++ gs₁, gs₂, by simp, by simp, .seq (by simpa using he) hf, ?_⟩
      simpa using hes

/-- What a sequence in a pattern captures, which is read from the left: each of `es` in turn. -/
theorem captures_sequence_iff {es : List Regex} :
    Captures (es.foldl .seq .empty) l p r gs ↔ CapturesAll es l p r gs := by
  rw [captures_foldl_iff, capturesAll_cons_iff]
  constructor
  · rintro ⟨q, s, hs, is, rfl, rfl, ⟨⟩, h⟩
    simpa using h
  · intro h
    exact ⟨[], p, [], gs, rfl, rfl, .empty, by simpa using h⟩

/-! ## Single characters -/

/-- `e` matches one character, if it is of some `kind`, and captures nothing. -/
def IsOne (e : Regex) (kind : Char → Prop) : Prop :=
  ∀ l p r gs, Captures e l p r gs ↔ gs = [] ∧ ∃ c, p = [c] ∧ kind c

theorem isOne_literal (c : Char) : IsOne (.literal c) (· = c) := by
  intro l p r gs
  constructor
  · rintro ⟨⟩
    exact ⟨rfl, c, rfl, rfl⟩
  · rintro ⟨rfl, d, rfl, rfl⟩
    exact .literal

theorem isOne_set (s : Unicode.CharSet) : IsOne (.set s) (s.contains · = true) := by
  intro l p r gs
  constructor
  · intro h
    cases h with
    | set hc => exact ⟨rfl, _, rfl, hc⟩
  · rintro ⟨rfl, d, rfl, hd⟩
    exact .set hd

theorem IsOne.mono {kind kind' : Char → Prop} (h : IsOne e kind) (hkind : ∀ c, kind c ↔ kind' c) : IsOne e kind' := by
  intro l p r gs
  rw [h l p r gs]
  simp only [hkind]

/-- Expressions of which each `IsOne` match, in turn, as many characters of their kinds. -/
theorem capturesAll_map_iff {expr : Char → Regex} {kind : Char → Char → Prop} {w : List Char}
    (h : ∀ c ∈ w, IsOne (expr c) (kind c)) : CapturesAll (w.map expr) l p r gs ↔ gs = [] ∧ List.Forall₂ kind w p := by
  induction w generalizing l p gs with
  | nil =>
    constructor
    · rintro ⟨⟩
      exact ⟨rfl, .nil⟩
    · rintro ⟨rfl, ⟨⟩⟩
      exact .nil
  | cons c w ih =>
    have hone := h c (List.mem_cons_self ..)
    have ih := fun {l p gs} => @ih l p gs fun d hd => h d (List.mem_cons_of_mem _ hd)
    rw [List.map_cons, capturesAll_cons_iff]
    constructor
    · rintro ⟨q, s, hs, is, rfl, rfl, hq, hs⟩
      obtain ⟨rfl, d, rfl, hd⟩ := (hone _ _ _ _).1 hq
      obtain ⟨rfl, hw⟩ := ih.1 hs
      exact ⟨rfl, .cons hd hw⟩
    · rintro ⟨rfl, hp⟩
      cases hp with
      | @cons _ d _ s hd hw =>
        exact ⟨[d], s, [], [], rfl, rfl, (hone _ _ _ _).2 ⟨rfl, d, rfl, hd⟩, ih.2 ⟨rfl, hw⟩⟩

/-- Literals in turn match the text `w` that they spell. -/
theorem capturesAll_literals_iff {w : List Char} : CapturesAll (w.map .literal) l p r gs ↔ gs = [] ∧ p = w := by
  have hsame : ∀ {w p : List Char}, List.Forall₂ (fun c d => d = c) w p ↔ p = w := fun {w p} => by
    rw [← List.forall₂_eq_eq_eq]
    exact ⟨List.Forall₂.flip, List.Forall₂.flip⟩
  rw [capturesAll_map_iff fun c _ => isOne_literal c, hsame]

/-- Any number of characters of a `kind`. -/
theorem captures_rep_iff {kind : Char → Prop} (h : IsOne e kind) :
    Captures (.rep e 0 none) l p r gs ↔ gs = [] ∧ ∀ c ∈ p, kind c := by
  constructor
  · generalize hrep : Regex.rep e 0 none = f
    intro hf
    -- along the derivation: each further time takes one character
    induction hf with
    | repDone => exact ⟨rfl, nofun⟩
    | repMay hone _ _ _ ih =>
      cases hrep
      obtain ⟨rfl, hrest⟩ := ih rfl
      obtain ⟨rfl, c, rfl, hc⟩ := (h _ _ _ _).1 hone
      exact ⟨rfl, List.forall_mem_cons.2 ⟨hc, hrest⟩⟩
    | empty | literal | set | look | capture | seq | altLeft | altRight | repMust => cases hrep
  · rintro ⟨rfl, hp⟩
    induction p generalizing l with
    | nil => exact .repDone
    | cons c p ih =>
      obtain ⟨hc, hp⟩ := List.forall_mem_cons.1 hp
      have hone : Captures e l [c] (p ++ r) [] := (h _ _ _ _).2 ⟨rfl, c, rfl, hc⟩
      exact .repMay hone (ih hp) nofun

/-- At least one character of a `kind`. -/
theorem captures_repOne_iff {kind : Char → Prop} (h : IsOne e kind) :
    Captures (.rep e 1 none) l p r gs ↔ gs = [] ∧ p ≠ [] ∧ ∀ c ∈ p, kind c := by
  constructor
  · intro hrep
    cases hrep with
    | repMust hone hrest _ =>
      obtain ⟨rfl, c, rfl, hc⟩ := (h _ _ _ _).1 hone
      obtain ⟨rfl, hp⟩ := (captures_rep_iff h).1 hrest
      exact ⟨rfl, nofun, List.forall_mem_cons.2 ⟨hc, hp⟩⟩
  · rintro ⟨rfl, hne, hp⟩
    obtain ⟨c, p, rfl⟩ := List.exists_cons_of_ne_nil hne
    obtain ⟨hc, hp⟩ := List.forall_mem_cons.1 hp
    have hone : Captures e l [c] (p ++ r) [] := (h _ _ _ _).2 ⟨rfl, c, rfl, hc⟩
    exact .repMust hone ((captures_rep_iff h).2 ⟨rfl, hp⟩) nofun

end DatasetLint.Pattern.Regex
