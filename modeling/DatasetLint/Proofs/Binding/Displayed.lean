import DatasetLint.Binding.NodePath
import DatasetLint.Proofs.Decimal.Integer
import DatasetLint.Proofs.Text.Pieces
import DatasetLint.Proofs.Text.Span

/-!
# Paths told by how they are shown

A shown path is cut where a point or a bracket opens the next step. As long as its keys have neither of them inside
and cannot be taken for nothing or for the name of the section, no other such path is shown like it. So the text tells
the node that it is about.
-/

namespace DatasetLint.Binding

/-- A number, or a key that is a text without `.`, `[` and `<`. -/
def Step.IsOrdinary : Step → Prop
  | .key k => k ≠ "" ∧ '.' ∉ k.toList ∧ '[' ∉ k.toList ∧ '<' ∉ k.toList
  | .index _ => True

instance : DecidablePred Step.IsOrdinary
  | .key k => inferInstanceAs (Decidable (k ≠ "" ∧ '.' ∉ k.toList ∧ '[' ∉ k.toList ∧ '<' ∉ k.toList))
  | .index _ => inferInstanceAs (Decidable True)

namespace NodePath

def IsOrdinary (p : NodePath) : Prop := ∀ step ∈ p, step.IsOrdinary

instance : DecidablePred IsOrdinary := fun p => inferInstanceAs (Decidable (∀ step ∈ p, step.IsOrdinary))

/-- The character `c` opens a step behind the first. -/
def opensStep (c : Char) : Bool := c == '.' || c == '['

private theorem opensStep_eq_false {k : String} (hk : (Step.key k).IsOrdinary) {c : Char} (hc : c ∈ k.toList) :
    opensStep c = false := by
  obtain ⟨-, hpoint, hbracket, -⟩ := hk
  unfold opensStep
  rw [beq_eq_false_iff_ne.2 (ne_of_mem_of_not_mem hc hpoint), beq_eq_false_iff_ne.2 (ne_of_mem_of_not_mem hc hbracket)]
  rfl

/-! ## Steps behind the first -/

private theorem toList_tail_key (k : String) (p : NodePath) :
    (tail (.key k :: p)).toList = '.' :: (k.toList ++ (tail p).toList) := by
  rw [tail, String.toList_append, String.toList_append]
  rfl

private theorem toList_tail_index (n : Nat) (p : NodePath) :
    (tail (.index n :: p)).toList = '[' :: (Decimal.natDigits n ++ ']' :: (tail p).toList) := by
  rw [tail, String.toList_append, String.toList_append, String.toList_append, Decimal.toList_toString,
    List.append_assoc]
  simp

private theorem tail_cons_ne_tail_nil (step : Step) (p : NodePath) : tail (step :: p) ≠ tail [] := by
  intro h
  have htext := congrArg String.toList h
  cases step with
  | key k => cases (toList_tail_key k p).symm.trans htext
  | index n => cases (toList_tail_index n p).symm.trans htext

/-- The steps of a `tail` begin with what `opensStep`. -/
theorem opensStep_of_mem_head?_tail (p : NodePath) : ∀ c ∈ (tail p).toList.head?, opensStep c = true := by
  intro c hc
  cases p with
  | nil => cases hc
  | cons step p =>
    cases step with
    | key k =>
      rw [toList_tail_key] at hc
      cases hc
      rfl
    | index n =>
      rw [toList_tail_index] at hc
      cases hc
      rfl

/-- An ordinary key ends where the next step opens. -/
theorem eq_of_key_append_tail {k l : String} (hk : (Step.key k).IsOrdinary) (hl : (Step.key l).IsOrdinary)
    {p q : NodePath} (h : k.toList ++ (tail p).toList = l.toList ++ (tail q).toList) : k = l ∧ tail p = tail q := by
  have hspan : ∀ {k : String} (p : NodePath), (Step.key k).IsOrdinary →
      (k.toList ++ (tail p).toList).takeWhile (fun c => !opensStep c) = k.toList ∧
      (k.toList ++ (tail p).toList).dropWhile (fun c => !opensStep c) = (tail p).toList := by
    intro k p hk
    apply Text.span_append
    · intro c hc
      rw [opensStep_eq_false hk hc]
      rfl
    · intro c hc
      rw [opensStep_of_mem_head?_tail p c hc]
      rfl
  obtain ⟨htake, hdrop⟩ := hspan p hk
  obtain ⟨htake', hdrop'⟩ := hspan q hl
  rw [h] at htake hdrop
  exact ⟨String.toList_inj.1 (htake.symm.trans htake'), String.toList_inj.1 (hdrop.symm.trans hdrop')⟩

/-- A number ends where its bracket closes. -/
theorem eq_of_index_append_tail {m n : Nat} {p q : NodePath}
    (h : Decimal.natDigits m ++ ']' :: (tail p).toList = Decimal.natDigits n ++ ']' :: (tail q).toList) :
    m = n ∧ tail p = tail q := by
  have hclosing : ∀ n, ']' ∉ Decimal.natDigits n := Decimal.notMem_natDigits (by decide)
  obtain ⟨hdigits, hrest⟩ := Text.eq_of_append_cons (hclosing m) (hclosing n) h
  exact ⟨Decimal.natDigits_injective hdigits, String.toList_inj.1 hrest⟩

/-- An ordinary path is told by its `tail`: what opens its first step says whether that is a key, and where this
ends the others begin. -/
theorem eq_of_tail_eq {p q : NodePath} (hp : p.IsOrdinary) (hq : q.IsOrdinary) (h : tail p = tail q) : p = q := by
  induction p generalizing q with
  | nil =>
    cases q with
    | nil => rfl
    | cons step q => exact absurd h.symm (tail_cons_ne_tail_nil step q)
  | cons step p ih =>
    cases q with
    | nil => exact absurd h (tail_cons_ne_tail_nil step p)
    | cons step' q =>
      obtain ⟨hstep, hrest⟩ := List.forall_mem_cons.1 hp
      obtain ⟨hstep', hrest'⟩ := List.forall_mem_cons.1 hq
      have htext := congrArg String.toList h
      -- a point opens a key and a bracket an index, so the first character tells them apart
      cases step with
      | key k =>
        rw [toList_tail_key] at htext
        cases step' with
        | key l =>
          rw [toList_tail_key] at htext
          obtain ⟨rfl, htail⟩ := eq_of_key_append_tail hstep hstep' (List.tail_eq_of_cons_eq htext)
          rw [ih hrest hrest' htail]
        | index n => cases htext.trans (toList_tail_index n q)
      | index m =>
        rw [toList_tail_index] at htext
        cases step' with
        | key l => cases htext.trans (toList_tail_key l q)
        | index n =>
          rw [toList_tail_index] at htext
          obtain ⟨rfl, htail⟩ := eq_of_index_append_tail (List.tail_eq_of_cons_eq htext)
          rw [ih hrest hrest' htail]

/-! ## Whole paths -/

/-- An ordinary path that begins with a key is shown with neither `[` nor `<` first. -/
theorem toList_render_key_ne {k : String} (hk : (Step.key k).IsOrdinary) (p : NodePath) {c : Char}
    (hc : c = '[' ∨ c = '<') (cs : List Char) : (render (.key k :: p)).toList ≠ c :: cs := by
  intro h
  obtain ⟨hne, -, hbracket, hangle⟩ := hk
  obtain ⟨d, ds, hds⟩ := List.exists_cons_of_ne_nil fun hnil => hne (String.toList_eq_nil_iff.1 hnil)
  rw [render, String.toList_append, hds, List.cons_append] at h
  have hmem : c ∈ k.toList := by
    rw [hds, List.head_eq_of_cons_eq h]
    exact List.mem_cons_self ..
  rcases hc with rfl | rfl
  · exact hbracket hmem
  · exact hangle hmem

/-- `render` shows a number first in the same way as `tail` does. -/
theorem render_index (n : Nat) (p : NodePath) : render (.index n :: p) = tail (.index n :: p) := rfl

private theorem eq_of_render_eq {p q : NodePath} (hp : p.IsOrdinary) (hq : q.IsOrdinary) (h : p.render = q.render) :
    p = q := by
  have htext := congrArg String.toList h
  -- only a first key is shown otherwise than in a tail: without its point
  cases p with
  | nil =>
    cases q with
    | nil => rfl
    | cons step q =>
      cases step with
      | key l => exact absurd htext.symm (toList_render_key_ne (hq _ (List.mem_cons_self ..)) q (.inr rfl) _)
      | index n => cases htext.trans (toList_tail_index n q)
  | cons step p =>
    obtain ⟨hstep, hrest⟩ := List.forall_mem_cons.1 hp
    cases q with
    | nil =>
      cases step with
      | key k => exact absurd htext (toList_render_key_ne hstep p (.inr rfl) _)
      | index m => cases (toList_tail_index m p).symm.trans htext
    | cons step' q =>
      obtain ⟨hstep', hrest'⟩ := List.forall_mem_cons.1 hq
      cases step with
      | key k =>
        cases step' with
        | key l =>
          rw [render, render, String.toList_append, String.toList_append] at htext
          obtain ⟨rfl, htail⟩ := eq_of_key_append_tail hstep hstep' htext
          rw [eq_of_tail_eq hrest hrest' htail]
        | index n =>
          rw [render_index, toList_tail_index] at htext
          exact absurd htext (toList_render_key_ne hstep p (.inl rfl) _)
      | index m =>
        cases step' with
        | key l =>
          rw [render_index, toList_tail_index] at htext
          exact absurd htext.symm (toList_render_key_ne hstep' q (.inl rfl) _)
        | index n => exact eq_of_tail_eq hp hq h

/-- `render` tells ordinary paths `p` and `q` apart. So what is shown for `p` tells the node `y` of a section `x`
that it leads to, if there is one. -/
theorem render_identifies {p : NodePath} (hp : p.IsOrdinary) :
    (∀ q : NodePath, q.IsOrdinary → (q.render = p.render ↔ q = p)) ∧
    ∀ x y, (∃ q : NodePath, q.IsOrdinary ∧ q.render = p.render ∧ q.follow x = some y) ↔ p.follow x = some y := by
  refine ⟨fun q hq => ⟨eq_of_render_eq hq hp, fun h => h ▸ rfl⟩, fun x y => ⟨?_, fun hy => ⟨p, hp, rfl, hy⟩⟩⟩
  rintro ⟨q, hq, hsame, hy⟩
  rwa [eq_of_render_eq hq hp hsame] at hy

/-- A number of two digits, and a key with `]`. -/
theorem render_identifies_closing :
    let p : NodePath := [.key "groups", .index 10, .key "2]", .key "name"]
    p.IsOrdinary ∧ p.render = "groups[10].2].name" ∧
      ∀ q : NodePath, q.IsOrdinary → (q.render = "groups[10].2].name" ↔ q = p) := by
  intro p
  have hp : p.IsOrdinary := by decide +kernel
  have hrender : p.render = "groups[10].2].name" := by decide +kernel
  refine ⟨hp, hrender, ?_⟩
  rw [← hrender]
  exact (render_identifies hp).1

/-- Each of the other keys can be taken for something else. -/
example : render [.key "", .index 0] = render [.index 0] ∧ render [.key "a.b"] = render [.key "a", .key "b"] ∧
    render [.key "a[0]"] = render [.key "a", .index 0] ∧ render [.key "<section>"] = render [] := by
  decide +kernel

end NodePath

end DatasetLint.Binding
