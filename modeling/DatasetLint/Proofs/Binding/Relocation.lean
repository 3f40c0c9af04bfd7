import DatasetLint.Proofs.Binding.Faults

/-!
# Sections at other places

A section is bound from its own root, or at a path in a larger one. The path goes along with every step inside, but
it only comes out again in front of the path of a fault: what becomes of the record is the same at every place.
-/

namespace DatasetLint.Binding

open Config

variable {σ α : Type}

/-! ## Faults seen from further out -/

/-- The record `b` after entries were bound onto it, where their section has the path `p`. -/
def Bound.within (p : NodePath) (b : Bound σ) : Bound σ := { b with error := b.error.map (·.within p) }

private theorem Bound.value_within (p : NodePath) (b : Bound σ) :
    (b.within p).value = b.value.mapError (·.within p) := by
  obtain ⟨target, error⟩ := b
  cases error with
  | none => rfl
  | some e => rfl

/-- What `bind` gives at `p ++ q` it gives at `q`, and a fault has `p` in front. -/
def Relocates (bind : NodePath → Node → Except BindFault α) : Prop :=
  ∀ p q x, bind (p ++ q) x = (bind q x).mapError (·.within p)

/-- The same of `assign`, for every key `k` and every record `s`. -/
def RelocatesEntries (assign : String → NodePath → Node → σ → Except BindFault σ) : Prop :=
  ∀ k s p q x, assign k (p ++ q) x s = (assign k q x s).mapError (·.within p)

/-! ## Sequences and mappings -/

private theorem ScalarType.relocates_bind (t : ScalarType α) : Relocates t.bind := by
  intro p q x
  cases x with
  | scalar s =>
    rw [bind, bind]
    cases t.read s with
    | ok a => rfl
    | error reason => rfl
  | null =>
    rw [bind, bind]
    cases t.null with
    | some a => rfl
    | none => rfl
  | mapping es => rfl
  | sequence xs => rfl

private theorem bindItems_append {bind : NodePath → Node → Except BindFault α} (h : Relocates bind) (p q : NodePath)
    (i : Nat) (xs : List Node) :
    bindItems bind (p ++ q) i xs = (bindItems bind q i xs).mapError (·.within p) := by
  induction xs generalizing i with
  | nil => rfl
  | cons x xs ih =>
    have hitem : bind (p ++ q ++ [.index i]) x = (bind (q ++ [.index i]) x).mapError (·.within p) := by
      rw [List.append_assoc]
      exact h p (q ++ [.index i]) x
    unfold bindItems
    rw [hitem, ih (i + 1)]
    cases bind (q ++ [.index i]) x with
    | error e => rfl
    | ok a => exact Except.map_mapError _ _ _

private theorem relocates_bindSequence {bind : NodePath → Node → Except BindFault α} (h : Relocates bind) :
    Relocates (bindSequence bind) := by
  intro p q x
  cases x with
  | sequence xs => exact bindItems_append h p q 0 xs
  | null => rfl
  | scalar s => rfl
  | mapping es => rfl

section Mappings

variable {assign : String → NodePath → Node → σ → Except BindFault σ}

private theorem bindEntries_append (h : RelocatesEntries assign) (p q : NodePath) (s : σ) (es : List (String × Node)) :
    bindEntries assign (p ++ q) s es = (bindEntries assign q s es).within p := by
  -- the entries before the first that does not fit change the record alike, and behind it nothing happens
  induction es generalizing s with
  | nil => rfl
  | cons e es ih =>
    obtain ⟨k, x⟩ := e
    have hentry : assign k (p ++ q ++ [.key k]) x s = (assign k (q ++ [.key k]) x s).mapError (·.within p) := by
      rw [List.append_assoc]
      exact h k s p (q ++ [.key k]) x
    unfold bindEntries
    rw [hentry]
    cases assign k (q ++ [.key k]) x s with
    | error e => rfl
    | ok t => exact ih t

private theorem bindSection_append (h : RelocatesEntries assign) (finish : σ → σ) (p q : NodePath) (s : σ) (x : Node) :
    bindSection assign finish (p ++ q) s x = (bindSection assign finish q s x).within p := by
  cases x with
  | mapping es =>
    unfold bindSection
    dsimp only
    rw [bindEntries_append h]
    cases bindEntries assign q s es with
    | mk target error =>
      cases error with
      | none => rfl
      | some e => rfl
  | null => rfl
  | scalar t => rfl
  | sequence xs => rfl

end Mappings

/-! ## Schemas -/

private theorem Fields.relocatesEntries_assign_of {fs : Fields σ}
    (h : ∀ k f, (k, f) ∈ fs.toList → Relocates f.kind.bind) : RelocatesEntries fs.assign := by
  intro k s p q x
  rw [assign_eq, assign_eq]
  cases hf : fs.find? k with
  | none => rfl
  | some f =>
    dsimp only
    rw [h k f (mem_of_find? hf) p q x]
    exact Except.map_mapError _ _ _

private theorem Record.relocates_fresh {r : Record σ}
    (h : ∀ p q s x, r.bindUnder (p ++ q) s x = (r.bindUnder q s x).within p) : Relocates r.fresh := by
  intro p q x
  rw [fresh_eq, fresh_eq, h, Bound.value_within]

private theorem Kind.relocates_bind (kind : Kind α) : Relocates kind.bind := by
  induction kind using Kind.induction (P := fun r =>
    ∀ p q s x, r.bindUnder (p ++ q) s x = (r.bindUnder q s x).within p) with
  | record r ih =>
    rename_i p q s x
    rw [r.bindUnder_eq, r.bindUnder_eq]
    exact bindSection_append (Fields.relocatesEntries_assign_of ih) r.finish p q s x
  | scalar t =>
    intro p q x
    rw [bind, bind]
    exact t.relocates_bind p q x
  | scalars t =>
    intro p q x
    rw [bind, bind]
    exact relocates_bindSequence t.relocates_bind p q x
  | ofRecord r ih =>
    intro p q x
    rw [bind, bind]
    exact Record.relocates_fresh ih p q x
  | ofOptionalRecord r ih =>
    intro p q x
    rw [bind, bind]
    split
    · rfl
    · rw [Record.relocates_fresh ih p q x]
      exact Except.map_mapError _ _ _
  | ofRecords r ih =>
    intro p q x
    rw [bind, bind]
    exact relocates_bindSequence (Record.relocates_fresh ih) p q x

private theorem Record.bindUnder_append (r : Record σ) (p q : NodePath) (s : σ) (x : Node) :
    r.bindUnder (p ++ q) s x = (r.bindUnder q s x).within p := by
  rw [r.bindUnder_eq, r.bindUnder_eq]
  exact bindSection_append (Fields.relocatesEntries_assign_of fun _ f _ => f.kind.relocates_bind) r.finish p q s x

/-- `bindUnder p` makes of `s` what `bind` makes of it, also where `x` does not fit: then the fault is the same one,
and `p` stands in front of its path. -/
theorem Record.bindUnder_relocated (r : Record σ) (p : NodePath) (s : σ) (x : Node) :
    (r.bindUnder p s x).target = (r.bind s x).target ∧
    ((r.bindUnder p s x).error = none ↔ (r.bind s x).error = none) ∧
    (r.bindUnder p s x).error = (r.bind s x).error.map fun e => ⟨p ++ e.path, e.misfit⟩ := by
  have happend := r.bindUnder_append p [] s x
  rw [List.append_nil] at happend
  rw [happend, bind]
  refine ⟨rfl, ?_, rfl⟩
  exact Option.map_eq_none_iff

end DatasetLint.Binding
