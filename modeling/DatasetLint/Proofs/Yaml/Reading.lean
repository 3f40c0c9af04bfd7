import DatasetLint.Proofs.Yaml.Meaning
import DatasetLint.Yaml.Reader
import Mathlib.Data.List.Forall2

/-!
# What reading a value yields

A value is read node by node, aliases being followed. What comes out has the shape of the nodes, each scalar has
the meaning of its text, and the keys of a mapping are different values.
-/

namespace DatasetLint.Yaml

namespace Read

variable {α β : Type} {refs : References}

/-- Whatever the computation `x` yields under `refs` has the property `P`. -/
def Yields (refs : References) (x : Read α) (P : α → Prop) : Prop := ∀ n a k, x refs n = .ok (a, k) → P a

theorem Yields.mono {x : Read α} {P Q : α → Prop} (h : Yields refs x P) (hPQ : ∀ a, P a → Q a) : Yields refs x Q :=
  fun n a k hx => hPQ a (h n a k hx)

theorem yields_pure {a : α} {P : α → Prop} (h : P a) : Yields refs (pure a) P := by
  intro n b k hb
  cases hb
  exact h

theorem yields_throw {e : Error} {P : α → Prop} : Yields refs (throw e : Read α) P := nofun

theorem yields_fault {f : Fault} {P : α → Prop} : Yields refs (fault f : Read α) P := nofun

theorem yields_true (x : Read α) : Yields refs x fun _ => True := fun _ _ _ _ => trivial

private theorem yields_read : Yields refs (read : Read References) (· = refs) := by
  intro n a k h
  cases h
  rfl

theorem Yields.bind {x : Read α} {f : α → Read β} {P : α → Prop} {Q : β → Prop} (hx : Yields refs x P)
    (hf : ∀ a, P a → Yields refs (f a) Q) : Yields refs (x >>= f) Q := by
  intro n b k h
  cases hxa : x refs n with
  | error e =>
    have hbind : (x >>= f) refs n = .error e := by
      change (x refs n >>= fun p => f p.1 refs p.2) = _
      rw [hxa]
      rfl
    cases hbind.symm.trans h
  | ok p =>
    have hbind : (x >>= f) refs n = f p.1 refs p.2 := by
      change (x refs n >>= fun p => f p.1 refs p.2) = _
      rw [hxa]
      rfl
    exact hf p.1 (hx n p.1 p.2 hxa) p.2 b k (hbind.symm.trans h)

theorem Yields.map {x : Read α} {f : α → β} {P : α → Prop} {Q : β → Prop} (hx : Yields refs x P)
    (hf : ∀ a, P a → Q (f a)) : Yields refs (f <$> x) Q := by
  rw [← bind_pure_comp]
  exact hx.bind fun a ha => yields_pure (hf a ha)

theorem Yields.located {x : Read α} {P : α → Prop} (hx : Yields refs x P) (p : Place) :
    Yields refs (Read.located p x) P := by
  intro n a k h
  rw [Read.located] at h
  cases hxa : x refs n with
  | error e => rw [hxa] at h; cases h
  | ok b =>
    rw [hxa] at h
    cases h
    exact hx n a k hxa

end Read

open Read

/-! ## Nodes behind aliases -/

/-- The node itself, or the one that an alias refers to. -/
def Node.target? (refs : References) : Node → Option Node
  | .reference _ (some id) => (refs.anchored.filter (·.1 == id)).getLast?.map (·.2)
  | .reference _ none => none
  | .broken => none
  | x => some x

theorem Node.yields_follow (refs : References) (x : Node) : Yields refs x.follow fun y => x.target? refs = some y := by
  cases x with
  | reference m target =>
    cases target with
    | none => exact yields_throw
    | some id =>
      rw [Node.follow]
      refine yields_read.bind fun rs hrs => ?_
      subst rs
      refine (yields_true _).bind fun n _ => ?_
      split
      · rename_i y hy
        split
        · exact yields_throw.bind (P := fun _ => False) fun _ h => h.elim
        · exact yields_pure (by rw [target?, hy]; rfl)
      · split
        · exact yields_throw.bind (P := fun _ => False) fun _ h => h.elim
        · exact yields_throw
  | scalar => exact yields_pure rfl
  | sequence => exact yields_pure rfl
  | mapping => exact yields_pure rfl
  | broken => exact yields_throw

/-! ## Values of nodes -/

/-- A value without the tags before it. -/
def Value.untagged : Value → Value
  | .tagged _ v => v.untagged
  | v => v

/-- The entries of a mapping, whatever tags it has. -/
def Value.entries? (v : Value) : Option (List (Value × Value)) :=
  match v.untagged with
  | .mapping es => some es
  | _ => none

namespace Reader

/-- The value `v` under a tag of one's own, if `tag` is one. -/
def underTag (tag : Option String) (v : Value) : Value := (Node.ownTag? tag).elim v (.tagged · v)

/-- What a node is read as under `refs`. -/
inductive Reads (refs : References) : Node → Value → Prop
  | scalar {x : Node} {m : Mark} {anchor : Option Nat} {tag : Option String} {t : String} {style : Style} {a : Scalar}
    (hx : x.target? refs = some (.scalar m anchor tag t style))
    (ha : Node.scalarMeaning (if (Node.ownTag? tag).isSome then none else tag) t style = .ok a)
    (hsize : ∀ i, a = .int i → Scalar.isWordSized i = true) : Reads refs x (underTag tag (.scalar a))
  | sequence {x : Node} {m : Mark} {anchor : Option Nat} {tag : Option String} {xs : List Node} {vs : List Value}
    (hx : x.target? refs = some (.sequence m anchor tag xs)) (hvs : List.Forall₂ (Reads refs) xs vs) :
    Reads refs x (underTag tag (.sequence vs))
  | mapping {x : Node} {m : Mark} {anchor : Option Nat} {tag : Option String} {ns : List (Node × Node)}
    {es : List (Value × Value)} (hx : x.target? refs = some (.mapping m anchor tag ns))
    (hkeys : List.Forall₂ (Reads refs) (ns.map (·.1)) (es.map (·.1)))
    (hvalues : List.Forall₂ (Reads refs) (ns.map (·.2)) (es.map (·.2)))
    (hdistinct : es.Pairwise fun a b => a.1.same b.1 = false) : Reads refs x (underTag tag (.mapping es))

variable {refs : References}

private theorem yields_wrap {tag : Option String} {r : Read Value} {P : Value → Prop}
    (h : Yields refs r fun v => P (underTag tag v)) : Yields refs (wrap tag r) P := by
  rw [wrap]
  cases htag : Node.ownTag? tag with
  | none =>
    refine h.mono fun v hv => ?_
    rwa [underTag, htag] at hv
  | some t =>
    dsimp only
    split
    · exact yields_fault
    · refine h.map fun v hv => ?_
      rwa [underTag, htag] at hv

theorem yields_items {α : Type} {item : Nat → Node → Read α} {P : Node → α → Prop}
    (hitem : ∀ i x, Yields refs (item i x) (P x)) (xs : List Node) (i : Nat) :
    Yields refs (items item i xs) (List.Forall₂ P xs) := by
  induction xs generalizing i with
  | nil => exact yields_pure .nil
  | cons x xs ih =>
    exact (hitem i x).bind fun v hv => (ih (i + 1)).bind fun vs hvs => yields_pure (.cons hv hvs)

private theorem yields_scalarValue (tag : Option String) (t : String) (style : Style) :
    Yields refs (scalarValue tag t style) fun v => ∃ a, v = .scalar a ∧ Node.scalarMeaning tag t style = .ok a ∧
      ∀ i, a = .int i → Scalar.isWordSized i = true := by
  rw [scalarValue]
  split
  · exact yields_fault
  · split
    · rename_i hsize
      refine yields_pure ⟨_, rfl, ?_, ?_⟩
      · assumption
      · rintro _ ⟨⟩
        exact hsize
    · exact yields_fault
  · rename_i a hint ha
    refine yields_pure ⟨a, rfl, ha, fun i hi => ?_⟩
    exact absurd hi (hint i)

private theorem yields_valueEntries {value : Path → Node → Read Value} {P : Node → Value → Prop}
    (hvalue : ∀ path x, Yields refs (value path x) (P x)) (path : Path) (ns : List (Node × Node))
    (seen : List (Value × Value)) (hseen : seen.Pairwise fun a b => b.1.same a.1 = false) :
    Yields refs (valueEntries value path seen ns) fun es => ∃ more, es = seen.reverse ++ more ∧
      List.Forall₂ P (ns.map (·.1)) (more.map (·.1)) ∧ List.Forall₂ P (ns.map (·.2)) (more.map (·.2)) ∧
      es.Pairwise fun a b => a.1.same b.1 = false := by
  -- the entries read so far are kept in reverse; the invariant is that no key is the same as one before it
  induction ns generalizing seen with
  | nil =>
    rw [valueEntries]
    exact yields_pure ⟨[], (List.append_nil _).symm, .nil, .nil, List.pairwise_reverse.2 hseen⟩
  | cons n ns ih =>
    obtain ⟨k, x⟩ := n
    rw [valueEntries]
    refine (hvalue path k).bind fun key hkey => ?_
    split
    · exact yields_fault.bind (P := fun _ => False) fun _ h => h.elim
    · rename_i hnew
      refine (hvalue (path.value k) x).bind fun v hv => ?_
      have hseen' : ((key, v) :: seen).Pairwise fun a b => b.1.same a.1 = false := by
        refine List.pairwise_cons.2 ⟨fun e he => ?_, hseen⟩
        rw [List.any_eq_true, not_exists] at hnew
        exact Bool.eq_false_iff.2 fun hsame => hnew e ⟨he, hsame⟩
      refine (ih ((key, v) :: seen) hseen').mono ?_
      rintro _ ⟨more, rfl, hkeys, hvalues, hdistinct⟩
      refine ⟨(key, v) :: more, ?_, .cons hkey hkeys, .cons hv hvalues, hdistinct⟩
      rw [List.reverse_cons, List.append_assoc, List.singleton_append]

/-- What is read from the node `y`, which is no alias. -/
theorem yields_content {below : Option (Path → Node → Read Value)}
    (hbelow : ∀ value ∈ below, ∀ path x, Yields refs (value path x) (Reads refs x)) (path : Path) {x y : Node}
    (hy : x.target? refs = some y) : Yields refs (content below path y) (Reads refs x) := by
  cases y with
  | scalar m anchor tag t style =>
    refine yields_wrap ((yields_scalarValue _ t style).mono ?_)
    rintro _ ⟨a, rfl, ha, hsize⟩
    exact .scalar hy ha hsize
  | sequence m anchor tag xs =>
    refine yields_wrap ?_
    cases below with
    | none => exact yields_throw
    | some value =>
      exact (yields_items (fun i y => hbelow value rfl (.item path i) y) xs 0).map fun vs hvs => .sequence hy hvs
  | mapping m anchor tag ns =>
    refine yields_wrap ?_
    cases below with
    | none => exact yields_throw
    | some value =>
      refine (yields_valueEntries (hbelow value rfl) path ns [] .nil).map ?_
      rintro es ⟨more, rfl, hkeys, hvalues, hdistinct⟩
      exact .mapping hy hkeys hvalues hdistinct
  | reference => exact yields_throw
  | broken => exact yields_throw

/-- Whatever is read from the node `x` is the value of it. -/
theorem yields_value (d : Nat) (path : Path) (x : Node) : Yields refs (value d path x) (Reads refs x) := by
  induction d generalizing path x with
  | zero =>
    rw [value]
    exact (Node.yields_follow refs x).bind fun y hy => Yields.located (yields_content (by rintro _ ⟨⟩) path hy) _
  | succ d ih =>
    rw [value]
    refine (Node.yields_follow refs x).bind fun y hy => Yields.located (yields_content ?_ path hy) _
    rintro _ ⟨⟩
    exact ih

/-! ## Records -/

section

variable {σ : Type} {I : σ → Prop}

/-- What every field keeps, `I`, is kept by all entries. -/
theorem yields_fields {known : List (Field σ)}
    (hassign : ∀ f ∈ known, ∀ s, I s → ∀ d path x, Yields refs (f.assign s d path x) I) (strict : Bool) (d : Nat)
    (path : Path) (seen : List String) {s : σ} (hs : I s) (es : List (Node × Node)) :
    Yields refs (fields strict known d path seen s es) fun r => I r.1 := by
  induction es generalizing seen s with
  | nil => exact yields_pure hs
  | cons e es ih =>
    obtain ⟨k, x⟩ := e
    rw [fields]
    refine (yields_true _).bind fun key _ => ?_
    split
    · exact (yields_true _).bind fun _ _ => ih seen hs
    · rename_i f hf
      have hmem : f ∈ known := List.mem_of_find?_eq_some hf
      split
      · exact yields_fault.bind (P := fun _ => False) fun _ h => h.elim
      · exact (hassign f hmem s hs d _ x).bind fun s' hs' => ih (key :: seen) hs'

theorem yields_record {known : List (Field σ)} {start : σ} (hstart : I start)
    (hassign : ∀ f ∈ known, ∀ s, I s → ∀ d path x, Yields refs (f.assign s d path x) I) (name : String) (strict : Bool)
    (d : Nat) (path : Path) (x : Node) : Yields refs (record name strict known start d path x) I := by
  rw [record]
  refine (yields_true _).bind fun y _ => Yields.located ?_ _
  refine (yields_true _).bind fun (d, es) _ => ?_
  refine (yields_fields hassign strict d path [] hstart es).bind fun (s, seen) hs => ?_
  dsimp only
  split
  · exact yields_fault
  · exact yields_pure hs

end

/-! ## What a value tells of its node -/

section

variable {x : Node} {v : Value}

theorem untagged_underTag (tag : Option String) (v : Value) : (underTag tag v).untagged = v.untagged := by
  rw [underTag]
  cases Node.ownTag? tag with
  | none => rfl
  | some t => rfl

/-- An empty node is read as null. -/
theorem reads_empty (m : Mark) : Reads refs (.empty m) (.scalar .null) := by
  have hnull : Reads refs (.empty m) (underTag none (.scalar .null)) := .scalar rfl rfl nofun
  exact hnull

/-- A plain scalar `t` without tag is read as what it means. -/
theorem Reads.plain (h : Reads refs x v) {m : Mark} {anchor : Option Nat} {t : String}
    (hx : x.target? refs = some (.scalar m anchor none t .plain)) :
    v = .scalar (.ofPlain t) ∧ (Scalar.ofPlain t).IsRead := by
  cases h with
  | scalar hx' ha hsize =>
    cases hx.symm.trans hx'
    cases ha
    exact ⟨rfl, Scalar.isRead_ofPlain hsize⟩
  | sequence hx' => cases hx.symm.trans hx'
  | mapping hx' => cases hx.symm.trans hx'

private theorem float_of_scalarMeaning {tag : Option String} {t : String} {style : Style} {v : Decimal.Floating}
    (h : Node.scalarMeaning tag t style = .ok (.float v)) :
    Scalar.ofPlain t = .float v ∨ Scalar.readFloat? t = some v := by
  rw [Node.scalarMeaning.eq_def] at h
  grind [Option.map_eq_some_iff]

/-- Whatever `a` the scalar `t` means, under any tag, is a scalar as documents have them if its integer is not too
large. -/
theorem isRead_of_scalarMeaning {tag : Option String} {t : String} {style : Style} {a : Scalar}
    (h : Node.scalarMeaning tag t style = .ok a) (hsize : ∀ i, a = .int i → Scalar.isWordSized i = true) :
    a.IsRead := by
  cases a with
  | null => trivial
  | bool b => trivial
  | string u => trivial
  | int i => exact hsize i rfl
  | float v =>
    rcases float_of_scalarMeaning h with hplain | hread
    · have hfloat : (Scalar.ofPlain t).IsRead := Scalar.isRead_ofPlain fun i hi => nomatch hplain.symm.trans hi
      rw [hplain] at hfloat
      exact hfloat
    · exact Scalar.isDouble_of_readFloat? hread

theorem Reads.isRead {a : Scalar} (h : Reads refs x (.scalar a)) : a.IsRead := by
  generalize hv : Value.scalar a = v at h
  have huntagged : v.untagged = .scalar a := by rw [← hv]; rfl
  cases h with
  | scalar hx ha hsize =>
    rw [untagged_underTag] at huntagged
    cases huntagged
    exact isRead_of_scalarMeaning ha hsize
  | sequence =>
    rw [untagged_underTag] at huntagged
    cases huntagged
  | mapping =>
    rw [untagged_underTag] at huntagged
    cases huntagged

/-- The keys of a value `v` that is a mapping are values of nodes, no two of them the `same`. -/
theorem Reads.keys (h : Reads refs x v) {es : List (Value × Value)} (hv : v.entries? = some es) :
    (∀ e ∈ es, ∃ y, Reads refs y e.1) ∧ es.Pairwise fun a b => a.1.same b.1 = false := by
  rw [Value.entries?] at hv
  cases h with
  | scalar =>
    rw [untagged_underTag] at hv
    cases hv
  | sequence =>
    rw [untagged_underTag] at hv
    cases hv
  | mapping _ hkeys _ hdistinct =>
    rw [untagged_underTag] at hv
    cases hv
    refine ⟨fun e he => ?_, hdistinct⟩
    obtain ⟨i, hi, hkey⟩ := List.mem_iff_getElem.1 (List.mem_map_of_mem he)
    have hread := hkeys.get (hkeys.length_eq ▸ hi) hi
    rw [List.get_eq_getElem, List.get_eq_getElem, hkey] at hread
    exact ⟨_, hread⟩

end

end Reader

end DatasetLint.Yaml
