import DatasetLint.Check.Encoding
import DatasetLint.Proofs.Binding.Conforming
import Mathlib.Data.List.Forall2

/-!
# What a section means

What a record becomes by a section, told without going through its entries one by one: of several entries
with a key the last counts, its value is made from nothing but its node, and what remains to be done with a
record is done once, after that is done with the records inside it. Binding computes exactly this.
-/

namespace DatasetLint.Binding

open Config

variable {σ α : Type}

/-! ## Values of nodes -/

/-- `t` reads the text `x` as `a`, or has `a` for the empty node. -/
def ScalarType.Means (t : ScalarType α) (x : Node) (a : α) : Prop :=
  (∃ s, x = .scalar s ∧ t.read s = .ok a) ∨ (x = .null ∧ t.null = some a)

/-- The list `as` has one value for each item of `x`, in order; the empty node means `[]`. -/
def SequenceMeans (means : Node → α → Prop) (x : Node) (as : List α) : Prop :=
  (x = .null ∧ as = []) ∨ ∃ xs, x = .sequence xs ∧ List.Forall₂ means xs as

/-- The record `t` is `s` after some entries, of which the last with each key counts. -/
inductive Filled (sets : String → Node → σ → σ → Prop) : List (String × Node) → σ → σ → Prop
  | nil (s : σ) : Filled sets [] s s
  | superseded {k : String} {x : Node} {es : List (String × Node)} {s t : σ} (h : k ∈ es.map (·.1))
      (rest : Filled sets es s t) : Filled sets ((k, x) :: es) s t
  | last {k : String} {x : Node} {es : List (String × Node)} {s t u : σ} (h : k ∉ es.map (·.1))
      (first : sets k x s t) (rest : Filled sets es t u) : Filled sets ((k, x) :: es) s u

/-- The record `t` is `s` after the section `x`: its entries fill it, and then it goes through `finish`. -/
def SectionMeans (sets : String → Node → σ → σ → Prop) (finish : σ → σ) (s : σ) (x : Node)
    (t : σ) : Prop :=
  (x = .null ∧ t = finish s) ∨ ∃ es u, x = .mapping es ∧ Filled sets es s u ∧ t = finish u

mutual

/-- The section `x` makes `t` of the record `s`. -/
def Record.Becomes {σ : Type} : Record σ → σ → Node → σ → Prop
  | .mk _ fields finish, s, x, t => SectionMeans fields.Sets finish s x t

/-- The field with the key `k` takes the value of the node `x`, which makes `t` of `s`. -/
def Fields.Sets {σ : Type} : Fields σ → String → Node → σ → σ → Prop
  | .nil, _, _, _, _ => False
  | .cons key kind set rest, k, x, s, t =>
    if key = k then ∃ a, kind.Means x a ∧ t = set a s else rest.Sets k x s t

/-- The node `x` has the value `a`; a record is made from its `start`. -/
def Kind.Means {α : Type} : Kind α → Node → α → Prop
  | .scalar t, x, a => t.Means x a
  | .scalars t, x, as => SequenceMeans t.Means x as
  | .record r, x, a => r.Becomes r.start x a
  | .optionalRecord r, x, o =>
    (x.isNull = true ∧ o = none) ∨ (x.isNull = false ∧ ∃ a, r.Becomes r.start x a ∧ o = some a)
  | .records r, x, as => SequenceMeans (r.Becomes r.start) x as

end

theorem Record.becomes_iff {r : Record σ} {s t : σ} {x : Node} :
    r.Becomes s x t ↔ SectionMeans r.fields.Sets r.finish s x t := by
  cases r
  rw [Becomes, fields, finish]

theorem Fields.sets_iff : ∀ {fs : Fields σ} {k : String} {x : Node} {s t : σ},
    fs.Sets k x s t ↔ ∃ f, fs.find? k = some f ∧ ∃ a, f.kind.Means x a ∧ t = f.set a s
  | .nil, k, x, s, t => by
    simp [Sets, find?]
  | .cons key kind set rest, k, x, s, t => by
    rw [Sets, find?]
    split
    · simp
    · exact sets_iff

/-! ## A node has one value at most -/

private theorem ScalarType.means_rightUnique (t : ScalarType α) : Relator.RightUnique t.Means := by
  intro x a b ha hb
  rcases ha with ⟨s, rfl, ha⟩ | ⟨rfl, ha⟩
  · rcases hb with ⟨_, ⟨⟩, hb⟩ | ⟨⟨⟩, _⟩
    rw [ha] at hb
    exact Except.ok.inj hb
  · rcases hb with ⟨_, ⟨⟩, _⟩ | ⟨_, hb⟩
    rw [ha] at hb
    exact Option.some.inj hb

private theorem SequenceMeans.unique {means : Node → α → Prop} (h : Relator.RightUnique means) {x : Node}
    {as bs : List α} (ha : SequenceMeans means x as) (hb : SequenceMeans means x bs) : as = bs := by
  rcases ha with ⟨rfl, rfl⟩ | ⟨xs, rfl, ha⟩
  · rcases hb with ⟨_, rfl⟩ | ⟨_, ⟨⟩, _⟩
    rfl
  · rcases hb with ⟨⟨⟩, _⟩ | ⟨_, ⟨⟩, hb⟩
    exact List.right_unique_forall₂' h ha hb

/-- Which entries count is settled by the keys behind them, so only the values that `sets` gives them could differ.
-/
theorem Filled.unique {sets : String → Node → σ → σ → Prop}
    (h : ∀ k x s t u, sets k x s t → sets k x s u → t = u) {es : List (String × Node)} {s t u : σ}
    (ht : Filled sets es s t) (hu : Filled sets es s u) : t = u := by
  induction ht generalizing u with
  | nil =>
    cases hu
    rfl
  | superseded hmem _ ih =>
    cases hu with
    | superseded _ hu => exact ih hu
    | last hnot _ _ => exact absurd hmem hnot
  | last hnot hfirst _ ih =>
    cases hu with
    | superseded hmem _ => exact absurd hmem hnot
    | last _ hfirst' hu =>
      rw [h _ _ _ _ _ hfirst hfirst'] at ih
      exact ih hu

private theorem SectionMeans.unique {sets : String → Node → σ → σ → Prop} {finish : σ → σ}
    (h : ∀ k x s t u, sets k x s t → sets k x s u → t = u) {s t u : σ} {x : Node}
    (ht : SectionMeans sets finish s x t) (hu : SectionMeans sets finish s x u) : t = u := by
  rcases ht with ⟨rfl, rfl⟩ | ⟨es, v, rfl, ht, rfl⟩
  · rcases hu with ⟨_, rfl⟩ | ⟨_, _, ⟨⟩, _⟩
    rfl
  · rcases hu with ⟨⟨⟩, _⟩ | ⟨_, w, ⟨⟩, hu, rfl⟩
    rw [ht.unique h hu]

private theorem Fields.sets_unique_of {fs : Fields σ}
    (h : ∀ k f, (k, f) ∈ fs.toList → ∀ x a b, f.kind.Means x a → f.kind.Means x b → a = b) (k : String)
    (x : Node) (s t u : σ) (ht : fs.Sets k x s t) (hu : fs.Sets k x s u) : t = u := by
  obtain ⟨f, hf, a, ha, rfl⟩ := sets_iff.1 ht
  obtain ⟨g, hg, b, hb, rfl⟩ := sets_iff.1 hu
  rw [hf] at hg
  cases hg
  rw [h k f (mem_of_find? hf) x a b ha hb]

theorem Kind.means_unique (kind : Kind α) (x : Node) (a b : α) (ha : kind.Means x a)
    (hb : kind.Means x b) : a = b := by
  induction kind using Kind.induction (P := fun r => ∀ s x t u, r.Becomes s x t → r.Becomes s x u → t = u)
    generalizing x with
  | record r ih =>
    rename_i s x t u ht hu
    rw [Record.becomes_iff] at ht hu
    exact ht.unique (Fields.sets_unique_of ih) hu
  | scalar t =>
    rw [Means] at ha hb
    exact t.means_rightUnique ha hb
  | scalars t =>
    rw [Means] at ha hb
    exact SequenceMeans.unique t.means_rightUnique ha hb
  | ofRecord r ih =>
    rw [Means] at ha hb
    exact ih _ _ _ _ ha hb
  | ofOptionalRecord r ih =>
    rw [Means] at ha hb
    rcases ha with ⟨hx, rfl⟩ | ⟨hx, c, ha, rfl⟩
    · rcases hb with ⟨_, rfl⟩ | ⟨hx', _⟩
      · rfl
      · rw [hx] at hx'
        cases hx'
    · rcases hb with ⟨hx', _⟩ | ⟨_, d, hb, rfl⟩
      · rw [hx] at hx'
        cases hx'
      · rw [ih _ _ _ _ ha hb]
  | ofRecords r ih =>
    rw [Means] at ha hb
    exact SequenceMeans.unique (fun x a b => ih _ x a b) ha hb

/-! ## Records whose fields are places -/

/-- `g` replaces what `f` has set. -/
def Field.Covers (g f : Field σ) : Prop := ∀ a b s, g.set b (f.set a s) = g.set b s

/-- Neither of `f` and `g` has a part in the other. -/
def Field.Apart (f g : Field σ) : Prop := ∀ a b s, g.set b (f.set a s) = f.set a (g.set b s)

/-- The fields are places of a structure: each replaces what was there, and two of them are the same place or
`Apart`. -/
def Fields.Placed (fs : Fields σ) : Prop :=
  ∀ f ∈ fs.toList, f.2.Covers f.2 ∧ ∀ g ∈ fs.toList, g.2.Covers f.2 ∨ f.2.Apart g.2

mutual

/-- The fields of the record are `Placed`, and so are those of all records inside it. -/
def Record.Lawful {σ : Type} : Record σ → Prop
  | .mk _ fields _ => fields.Placed ∧ fields.Lawful

def Fields.Lawful {σ : Type} : Fields σ → Prop
  | .nil => True
  | .cons _ kind _ rest => kind.Lawful ∧ rest.Lawful

def Kind.Lawful {α : Type} : Kind α → Prop
  | .scalar _ => True
  | .scalars _ => True
  | .record r => r.Lawful
  | .optionalRecord r => r.Lawful
  | .records r => r.Lawful

end

theorem Record.lawful_iff {r : Record σ} : r.Lawful ↔ r.fields.Placed ∧ r.fields.Lawful := by
  cases r
  rw [Lawful, fields]

private theorem Fields.Lawful.kind_lawful : ∀ {fs : Fields σ} {k : String} {f : Field σ},
    fs.Lawful → (k, f) ∈ fs.toList → f.kind.Lawful
  | .nil, _, _, _, hf => by
    cases hf
  | .cons key kind set rest, k, f, h, hf => by
    rw [Fields.Lawful] at h
    rw [toList, List.mem_cons] at hf
    rcases hf with hf | hf
    · cases hf
      exact h.1
    · exact h.2.kind_lawful hf

/-! ## Entries one by one -/

/-- A value that will be replaced might as well not have been set. -/
theorem Filled.forget {fs : Fields σ} (hfs : fs.Placed) {k : String} {f : Field σ}
    (hf : fs.find? k = some f) {es : List (String × Node)} (hk : k ∈ es.map (·.1)) {a : f.type} {s t : σ}
    (h : Filled fs.Sets es (f.set a s) t) : Filled fs.Sets es s t := by
  obtain ⟨hself, hothers⟩ := hfs (k, f) (Fields.mem_of_find? hf)
  -- the value is carried along the entries until one of them sets its place anew
  induction es generalizing s with
  | nil => cases hk
  | cons e es ih =>
    obtain ⟨l, y⟩ := e
    rw [List.map_cons, List.mem_cons] at hk
    cases h with
    | superseded hmem hrest =>
      have hk : k ∈ es.map (·.1) := by
        rcases hk with rfl | hk
        · exact hmem
        · exact hk
      exact .superseded hmem (ih hk hrest)
    | last hnot hfirst hrest =>
      obtain ⟨g, hg, b, hb, rfl⟩ := Fields.sets_iff.1 hfirst
      have hsets : fs.Sets l y s (g.set b s) := Fields.sets_iff.2 ⟨g, hg, b, hb, rfl⟩
      rcases hk with rfl | hk
      · -- this is the last entry with the key
        rw [hf] at hg
        cases hg
        rw [hself] at hrest
        exact .last hnot hsets hrest
      · rcases hothers (l, g) (Fields.mem_of_find? hg) with hcovers | hapart
        · rw [hcovers] at hrest
          exact .last hnot hsets hrest
        · rw [hapart] at hrest
          exact .last hnot hsets (ih hk hrest)

private theorem Fields.sets_of_assign {fs : Fields σ}
    (h : ∀ k f, (k, f) ∈ fs.toList → ∀ path x a, f.kind.bind path x = .ok a → f.kind.Means x a) {k : String}
    {path : NodePath} {x : Node} {s t : σ} (ht : fs.assign k path x s = .ok t) :
    ∃ f a, fs.find? k = some f ∧ f.kind.Means x a ∧ t = f.set a s := by
  rw [assign_eq] at ht
  cases hf : fs.find? k with
  | none =>
    rw [hf] at ht
    cases ht
  | some f =>
    simp only [hf, Except.map_eq_ok_iff] at ht
    obtain ⟨a, hx, rfl⟩ := ht
    exact ⟨f, a, rfl, h k f (mem_of_find? hf) path x a hx, rfl⟩

private theorem Fields.filled_of_bindEntries {fs : Fields σ} (hfs : fs.Placed)
    (h : ∀ k f, (k, f) ∈ fs.toList → ∀ path x a, f.kind.bind path x = .ok a → f.kind.Means x a)
    {path : NodePath} {es : List (String × Node)} {s : σ} (hes : (bindEntries fs.assign path s es).error = none) :
    Filled fs.Sets es s (bindEntries fs.assign path s es).target := by
  induction es generalizing s with
  | nil => exact .nil s
  | cons e es ih =>
    obtain ⟨k, x⟩ := e
    cases hassign : fs.assign k (path ++ [.key k]) x s with
    | error e =>
      simp only [bindEntries, hassign] at hes
      cases hes
    | ok t =>
      simp only [bindEntries, hassign] at hes ⊢
      obtain ⟨f, a, hf, ha, rfl⟩ := sets_of_assign h hassign
      -- an entry that a later one supersedes was bound all the same, but nothing of it is left
      by_cases hk : k ∈ es.map (·.1)
      · exact .superseded hk ((ih hes).forget hfs hf hk)
      · exact .last hk (sets_iff.2 ⟨f, hf, a, ha, rfl⟩) (ih hes)

/-! ## Binding computes what a section means -/

private theorem ScalarType.means_of_bind {t : ScalarType α} {path : NodePath} {x : Node} {a : α}
    (h : t.bind path x = .ok a) : t.Means x a := by
  cases x with
  | scalar s =>
    rw [bind, Except.mapError_eq_ok_iff] at h
    exact .inl ⟨s, rfl, h⟩
  | null =>
    rw [bind] at h
    cases hnull : t.null with
    | none =>
      rw [hnull] at h
      cases h
    | some b =>
      rw [hnull] at h
      cases h
      exact .inr ⟨rfl, hnull⟩
  | mapping es => cases h
  | sequence xs => cases h

private theorem forall₂_of_bindItems {bind : NodePath → Node → Except BindFault α} {means : Node → α → Prop}
    (h : ∀ path x a, bind path x = .ok a → means x a) {path : NodePath} {i : Nat} {xs : List Node}
    {as : List α} (has : bindItems bind path i xs = .ok as) : List.Forall₂ means xs as := by
  induction xs generalizing i as with
  | nil =>
    cases has
    exact .nil
  | cons x xs ih =>
    rw [bindItems] at has
    cases hx : bind (path ++ [.index i]) x with
    | error e =>
      rw [hx] at has
      cases has
    | ok a =>
      simp only [hx, Except.map_eq_ok_iff] at has
      obtain ⟨bs, hxs, rfl⟩ := has
      exact .cons (h _ x a hx) (ih hxs)

private theorem sequenceMeans_of_bindSequence {bind : NodePath → Node → Except BindFault α}
    {means : Node → α → Prop} (h : ∀ path x a, bind path x = .ok a → means x a) {path : NodePath} {x : Node}
    {as : List α} (has : bindSequence bind path x = .ok as) : SequenceMeans means x as := by
  cases x with
  | sequence xs => exact .inr ⟨xs, rfl, forall₂_of_bindItems h has⟩
  | null =>
    cases has
    exact .inl ⟨rfl, rfl⟩
  | scalar s => cases has
  | mapping es => cases has

private theorem Record.becomes_of_bindUnder_of {r : Record σ} (hr : r.fields.Placed)
    (h : ∀ k f, (k, f) ∈ r.fields.toList → ∀ path x a, f.kind.bind path x = .ok a → f.kind.Means x a)
    {path : NodePath} {s : σ} {x : Node} (hx : (r.bindUnder path s x).error = none) :
    r.Becomes s x (r.bindUnder path s x).target := by
  rw [becomes_iff]
  rw [bindUnder_eq] at hx ⊢
  cases x with
  | null => exact .inl ⟨rfl, rfl⟩
  | mapping es =>
    rw [error_bindSection_mapping] at hx
    refine .inr ⟨es, _, rfl, Fields.filled_of_bindEntries hr h hx, ?_⟩
    simp [bindSection, hx]
  | scalar t => cases hx
  | sequence xs => cases hx

private theorem Record.fresh_eq_ok {r : Record σ} {path : NodePath} {x : Node} {a : σ}
    (h : r.fresh path x = .ok a) : r.bindUnder path r.start x = ⟨a, none⟩ := by
  rw [fresh_eq, Bound.value] at h
  cases hb : r.bindUnder path r.start x with
  | mk target error =>
    rw [hb] at h
    cases error with
    | none =>
      cases h
      rfl
    | some e => cases h

private theorem Kind.means_of_bind {kind : Kind α} (hkind : kind.Lawful) {path : NodePath} {x : Node} {a : α}
    (h : kind.bind path x = .ok a) : kind.Means x a := by
  induction kind using Kind.induction (P := fun r => r.Lawful → ∀ path x a,
    r.fresh path x = .ok a → r.Becomes r.start x a) generalizing path x with
  | record r ih =>
    rename_i hr path x a ha
    rw [Record.lawful_iff] at hr
    have hb := Record.fresh_eq_ok ha
    -- the records inside it are lawful too, so what is bound there is what it means
    have hbecomes := Record.becomes_of_bindUnder_of hr.1
      (fun k f hf path x a => ih k f hf (hr.2.kind_lawful hf)) (congrArg Bound.error hb)
    rw [hb] at hbecomes
    exact hbecomes
  | scalar t =>
    rw [Kind.bind] at h
    rw [Means]
    exact ScalarType.means_of_bind h
  | scalars t =>
    rw [Kind.bind] at h
    rw [Means]
    exact sequenceMeans_of_bindSequence (fun _ _ _ => ScalarType.means_of_bind) h
  | ofRecord r ih =>
    rw [Kind.bind] at h
    rw [Means]
    exact ih hkind path x _ h
  | ofOptionalRecord r ih =>
    rw [Kind.bind] at h
    rw [Means]
    cases hx : x.isNull with
    | true =>
      rw [hx] at h
      cases h
      exact .inl ⟨rfl, rfl⟩
    | false =>
      rw [hx, if_neg Bool.false_ne_true, Except.map_eq_ok_iff] at h
      obtain ⟨b, hb, rfl⟩ := h
      exact .inr ⟨rfl, b, ih hkind path x b hb, rfl⟩
  | ofRecords r ih =>
    rw [Kind.bind] at h
    rw [Means]
    exact sequenceMeans_of_bindSequence (ih hkind) h

theorem Record.becomes_of_bindUnder {r : Record σ} (hr : r.Lawful) {path : NodePath} {s : σ}
    {x : Node} (hx : (r.bindUnder path s x).error = none) : r.Becomes s x (r.bindUnder path s x).target := by
  rw [lawful_iff] at hr
  exact becomes_of_bindUnder_of hr.1 (fun k f hf path x a => Kind.means_of_bind (hr.2.kind_lawful hf)) hx

theorem Record.becomes_unique {r : Record σ} {s t u : σ} {x : Node} (ht : r.Becomes s x t)
    (hu : r.Becomes s x u) : t = u := by
  rw [becomes_iff] at ht hu
  exact ht.unique (Fields.sets_unique_of fun _ f _ => f.kind.means_unique) hu

/-! ## Fields one by one -/

/-- The value of the last of the entries `es` with the key `key`. -/
def lastValue? (es : List (String × Node)) (key : String) : Option Node := es.reverse.lookup key

private theorem lastValue?_cons (k : String) (x : Node) (es : List (String × Node)) (key : String) :
    lastValue? ((k, x) :: es) key = (lastValue? es key).or (if key = k then some x else none) := by
  rw [lastValue?, List.reverse_cons, List.lookup_append, lastValue?, List.lookup_cons, List.lookup_nil]
  by_cases h : key = k
  · simp [h]
  · simp [h, beq_eq_false_iff_ne.2 h]

theorem lastValue?_eq_none_iff {es : List (String × Node)} {key : String} :
    lastValue? es key = none ↔ key ∉ es.map (·.1) := by
  rw [lastValue?, List.lookup_eq_none_iff]
  simp only [List.mem_reverse, List.mem_map, bne_iff_ne, not_exists, not_and]
  exact ⟨fun h e he hkey => h e he hkey.symm, fun h e he hkey => h e he hkey.symm⟩

/-- `get` looks at the field `f` with the key `k`: it shows what is set there, and no other field shows in it. -/
structure Fields.Reads (fs : Fields σ) (k : String) (f : Field σ) (get : σ → f.type) : Prop where
  find : fs.find? k = some f
  get_set : ∀ a s, get (f.set a s) = a
  get_set_other : ∀ l g, fs.find? l = some g → l ≠ k → ∀ b s, get (g.set b s) = get s

theorem Fields.Reads.of_toList {fs : Fields σ} {k : String} {f : Field σ} {get : σ → f.type} (hfind : fs.find? k = some f)
    (hget : ∀ a s, get (f.set a s) = a) (hothers : ∀ e ∈ fs.toList, e.1 = k ∨ ∀ b s, get (e.2.set b s) = get s) :
    fs.Reads k f get where
  find := hfind
  get_set := hget
  get_set_other l g hg hl := (hothers (l, g) (mem_of_find? hg)).resolve_left hl

/-- The field that `get` reads holds the `lastValue?` of its key, or what it held before if there is none. -/
theorem Filled.get {fs : Fields σ} {k : String} {f : Field σ} {get : σ → f.type}
    (hget : fs.Reads k f get) {es : List (String × Node)} {s t : σ} (h : Filled fs.Sets es s t) :
    match lastValue? es k with
    | none => get t = get s
    | some y => f.kind.Means y (get t) := by
  induction h with
  | nil => rfl
  | @superseded l x es s t hmem _ ih =>
    rw [lastValue?_cons]
    by_cases hk : k = l
    · -- the entry that supersedes this one has the same key
      have hsome : lastValue? es k ≠ none := by
        rw [ne_eq, lastValue?_eq_none_iff, hk]
        exact not_not_intro hmem
      cases hlast : lastValue? es k with
      | none => exact absurd hlast hsome
      | some y =>
        rw [hlast] at ih
        exact ih
    · rw [if_neg hk, Option.or_none]
      exact ih
  | @last l x es s t u hnot hfirst _ ih =>
    obtain ⟨g, hg, b, hb, rfl⟩ := Fields.sets_iff.1 hfirst
    rw [lastValue?_cons]
    by_cases hk : k = l
    · subst hk
      rw [hget.find] at hg
      cases hg
      rw [lastValue?_eq_none_iff.2 hnot] at ih ⊢
      rw [if_pos rfl]
      have hu : get u = b := ih.trans (hget.get_set b s)
      rw [← hu] at hb
      exact hb
    · rw [if_neg hk, Option.or_none, ← hget.get_set_other l g hg (Ne.symm hk) b s]
      exact ih

/-- The `lastValue?` of its key settles a field, whatever else `es` and `es'` say. -/
theorem Filled.get_eq {fs : Fields σ} {k : String} {f : Field σ} {get : σ → f.type} {es es' : List (String × Node)}
    {s t t' : σ} (h : Filled fs.Sets es s t) (hget : fs.Reads k f get) (h' : Filled fs.Sets es' s t')
    (hlast : lastValue? es k = lastValue? es' k) : get t = get t' := by
  have ht := h.get hget
  have ht' := h'.get hget
  rw [← hlast] at ht'
  cases hvalue : lastValue? es k with
  | none =>
    rw [hvalue] at ht ht'
    exact ht.trans ht'.symm
  | some y =>
    rw [hvalue] at ht ht'
    exact f.kind.means_unique y _ _ ht ht'

/-- A record that `bind` fills is what `x` makes of `s`. -/
theorem Record.becomes_of_bind {r : Record σ} (hr : r.Lawful) {s t : σ} {x : Node} (hx : r.bind s x = ⟨t, none⟩) :
    r.Becomes s x t := by
  have hbecomes := becomes_of_bindUnder hr (congrArg Bound.error hx : (r.bindUnder [] s x).error = none)
  have htarget : (r.bindUnder [] s x).target = t := congrArg Bound.target hx
  rwa [htarget] at hbecomes

/-- `bind` fills `t` exactly if `x` conforms and makes `t` of `s`. -/
theorem Record.bind_eq_filled_iff {r : Record σ} (hr : r.Lawful) (s : σ) (x : Node) (t : σ) :
    r.bind s x = ⟨t, none⟩ ↔ r.Conforms x ∧ r.Becomes s x t := by
  constructor
  · intro hx
    have herror : (r.bindUnder [] s x).error = none := congrArg Bound.error hx
    exact ⟨(r.error_bindUnder_eq_none_iff [] s x).1 herror, becomes_of_bind hr hx⟩
  · rintro ⟨hconforms, hbecomes⟩
    -- binding makes something of a section that conforms, and the section has one meaning only
    have herror := (r.error_bindUnder_eq_none_iff [] s x).2 hconforms
    have htarget := becomes_unique (becomes_of_bindUnder hr herror) hbecomes
    cases hb : r.bindUnder [] s x with
    | mk target error =>
      rw [hb] at herror htarget
      rw [bind, hb, ← herror, ← htarget]

/-- Before `finish`, each field that `get` reads holds what the last of the entries `es` with its key means, or what
it held in `s`. -/
theorem Record.exists_of_bind_mapping {r : Record σ} (hr : r.Lawful) {s t : σ} {es : List (String × Node)}
    (hx : r.bind s (.mapping es) = ⟨t, none⟩) : ∃ u, t = r.finish u ∧
      ∀ k f get, r.fields.Reads k f get → match lastValue? es k with
        | none => get u = get s
        | some y => f.kind.Means y (get u) := by
  have hbecomes := becomes_of_bind hr hx
  rw [becomes_iff] at hbecomes
  rcases hbecomes with ⟨⟨⟩, _⟩ | ⟨_, u, ⟨⟩, hfilled, htu⟩
  exact ⟨u, htu, fun k f get hget => hfilled.get hget⟩

/-- `bind` succeeds with exactly the sections that `Conforms` accepts. With a `Lawful` record it makes of `s`
exactly what `x` means, `Becomes`: by a mapping `es`, and before `finish` runs, the field that `get` reads holds the
value of the last entry with its key, and a field without an entry what it held in `s`. -/
theorem Record.bind_eq_iff (r : Record σ) (s : σ) (x : Node) :
    ((r.bind s x).error = none ↔ r.Conforms x) ∧
    (r.Lawful → ∀ t, r.bind s x = ⟨t, none⟩ ↔ r.Conforms x ∧ r.Becomes s x t) ∧
    (r.Lawful → ∀ es t, r.bind s (.mapping es) = ⟨t, none⟩ → ∃ u, t = r.finish u ∧
      ∀ k f get, r.fields.Reads k f get → match lastValue? es k with
        | none => get u = get s
        | some y => f.kind.Means y (get u)) := by
  exact ⟨r.error_bindUnder_eq_none_iff [] s x, fun hr => bind_eq_filled_iff hr s x,
    fun hr _ _ => exists_of_bind_mapping hr⟩

/-! ## The records of the checks -/

theorem lawful_encodingRecord : Check.Encoding.Settings.record.Lawful := by
  rw [Record.lawful_iff]
  constructor
  · simp [Check.Encoding.Settings.record, Record.fields, Fields.Placed, Fields.toList, Field.Covers,
      Field.Apart]
  · simp [Check.Encoding.Settings.record, Record.fields, Fields.Lawful, Kind.Lawful]

private theorem lawful_ruleRecord : Check.Prefixes.Rule.record.Lawful := by
  rw [Record.lawful_iff]
  constructor
  · simp [Check.Prefixes.Rule.record, Record.fields, Fields.Placed, Fields.toList, Field.Covers,
      Field.Apart]
  · simp [Check.Prefixes.Rule.record, Record.fields, Fields.Lawful, Kind.Lawful]

theorem lawful_prefixesRecord : Check.Prefixes.Settings.record.Lawful := by
  rw [Record.lawful_iff]
  constructor
  · simp [Check.Prefixes.Settings.record, Record.fields, Fields.Placed, Fields.toList, Field.Covers,
      Field.Apart]
  · simp [Check.Prefixes.Settings.record, Record.fields, Fields.Lawful, Kind.Lawful, lawful_ruleRecord]

/-- Rules that are given twice, and before and behind them a severity that the rules inherit. -/
def repeatedRules : Node :=
  .mapping [("severity", .scalar "warning"), ("prefixes", .sequence [.mapping [("name", .scalar "a")]]),
    ("prefixes", .sequence [.null, .mapping [("name", .scalar "b"), ("name", .scalar "c")]]),
    ("severity", .scalar "error")]

/-- The later rules count, and the later severity. -/
theorem bind_eq_iff_repeatedRules :
    Check.Prefixes.Settings.record.Conforms repeatedRules ∧
    Check.Prefixes.Settings.record.Becomes ⟨.warning, [⟨"d", "e", none⟩]⟩ repeatedRules
      ⟨.error, [⟨"", "", some .error⟩, ⟨"c", "", some .error⟩]⟩ :=
  ((Record.bind_eq_iff _ _ _).2.1 lawful_prefixesRecord _).1 rfl

end DatasetLint.Binding
