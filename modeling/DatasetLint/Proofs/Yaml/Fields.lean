import DatasetLint.Proofs.Yaml.Places
import DatasetLint.Proofs.Yaml.Tagless

/-!
# One field of a record

A record is read entry by entry, and each key must be the name of a field that was not met before. So what is
in a field is read from the node of the one entry that has its name for a key; without such an entry it is what
it was at the start. A node is never read as two different values.
-/

namespace DatasetLint.Yaml

open Read

variable {refs : References}

/-! ## What the nodes of a document refer to -/

namespace Node

variable {x y k : Node} {n : Nat}

/-- The node of a document refers to no other one: an alias there has no anchor in front of it. -/
theorem eq_of_target? (h : x.target? ⟨x.anchored, n⟩ = some y) : y = x := by
  cases x with
  | reference m target =>
    cases target with
    | none => cases h
    | some id => cases h
  | scalar => exact (Option.some.inj h).symm
  | sequence => exact (Option.some.inj h).symm
  | mapping => exact (Option.some.inj h).symm
  | broken => cases h

/-- Nothing in a document `x` without tags, also behind an alias, has a tag. -/
theorem tag?_of_target? (hx : x.IsTagless) (hk : k ∈ x.walk) (h : k.target? ⟨x.anchored, n⟩ = some y) :
    y.tag? = none := by
  cases k with
  | reference m target =>
    cases target with
    | none => cases h
    | some id =>
      obtain ⟨e, he, rfl⟩ := Option.map_eq_some_iff.1 h
      obtain ⟨z, hz, hanchor⟩ := List.mem_filterMap.1 (List.mem_filter.1 (List.mem_of_getLast? he)).1
      obtain ⟨_, -, rfl⟩ := Option.map_eq_some_iff.1 hanchor
      exact hx z hz
  | scalar =>
    cases h
    exact hx _ hk
  | sequence =>
    cases h
    exact hx _ hk
  | mapping =>
    cases h
    exact hx _ hk
  | broken => cases h

end Node

namespace Reader

/-! ## A node has one value at most -/

theorem forall₂_unique {α β : Type} {R : α → β → Prop} {xs : List α} {vs ws : List β}
    (h : ∀ v ∈ vs, ∀ x w, R x v → R x w → v = w) (hvs : List.Forall₂ R xs vs) (hws : List.Forall₂ R xs ws) :
    vs = ws := by
  induction hvs generalizing ws with
  | nil =>
    cases hws
    rfl
  | cons hv _ ih =>
    obtain ⟨hhead, htail⟩ := List.forall_mem_cons.1 h
    cases hws with
    | cons hw hws => rw [hhead _ _ hv hw, ih htail hws]

private theorem sizeOf_lt_sequence (tag : Option String) {v : Value} {vs : List Value} (hv : v ∈ vs) :
    sizeOf v < sizeOf (underTag tag (.sequence vs)) := by
  have hmem := List.sizeOf_lt_of_mem hv
  rw [underTag]
  cases Node.ownTag? tag with
  | none =>
    rw [Option.elim_none, Value.sequence.sizeOf_spec]
    omega
  | some t =>
    rw [Option.elim_some, Value.tagged.sizeOf_spec, Value.sequence.sizeOf_spec]
    omega

private theorem sizeOf_lt_mapping (tag : Option String) {e : Value × Value} {es : List (Value × Value)} (he : e ∈ es) :
    sizeOf e.1 < sizeOf (underTag tag (.mapping es)) ∧ sizeOf e.2 < sizeOf (underTag tag (.mapping es)) := by
  have hmem := List.sizeOf_lt_of_mem he
  have hpair : sizeOf e = 1 + sizeOf e.1 + sizeOf e.2 := Prod.mk.sizeOf_spec e.1 e.2
  rw [underTag]
  cases Node.ownTag? tag with
  | none =>
    rw [Option.elim_none, Value.mapping.sizeOf_spec]
    omega
  | some t =>
    rw [Option.elim_some, Value.tagged.sizeOf_spec, Value.mapping.sizeOf_spec]
    omega

private theorem Reads.unique_of_lt {n : Nat} {x : Node} {v w : Value} (hn : sizeOf v < n) (hv : Reads refs x v)
    (hw : Reads refs x w) : v = w := by
  -- by induction on a bound for the size of the value, because an alias can lead to a larger node
  induction n generalizing x v w with
  | zero => cases hn
  | succ n ih =>
    have hn := Nat.le_of_lt_succ hn
    cases hv with
    | scalar hx ha =>
      cases hw with
      | scalar hx' ha' =>
        cases hx.symm.trans hx'
        cases ha.symm.trans ha'
        rfl
      | sequence hx' => cases hx.symm.trans hx'
      | mapping hx' => cases hx.symm.trans hx'
    | @sequence _ _ _ tag xs vs hx hvs =>
      cases hw with
      | scalar hx' => cases hx.symm.trans hx'
      | sequence hx' hws =>
        cases hx.symm.trans hx'
        have hitems : ∀ v ∈ vs, ∀ x w, Reads refs x v → Reads refs x w → v = w := fun v hv x w =>
          ih (Nat.lt_of_lt_of_le (sizeOf_lt_sequence tag hv) hn)
        rw [forall₂_unique hitems hvs hws]
      | mapping hx' => cases hx.symm.trans hx'
    | @mapping _ _ _ tag ns es hx hkeys hvalues =>
      cases hw with
      | scalar hx' => cases hx.symm.trans hx'
      | sequence hx' => cases hx.symm.trans hx'
      | @mapping _ _ _ _ _ fs hx' hkeys' hvalues' =>
        cases hx.symm.trans hx'
        have hkey : ∀ k ∈ es.map (·.1), ∀ x w, Reads refs x k → Reads refs x w → k = w := by
          intro k hk x w
          obtain ⟨e, he, rfl⟩ := List.mem_map.1 hk
          exact ih (Nat.lt_of_lt_of_le (sizeOf_lt_mapping tag he).1 hn)
        have hvalue : ∀ v ∈ es.map (·.2), ∀ x w, Reads refs x v → Reads refs x w → v = w := by
          intro v hv x w
          obtain ⟨e, he, rfl⟩ := List.mem_map.1 hv
          exact ih (Nat.lt_of_lt_of_le (sizeOf_lt_mapping tag he).2 hn)
        have hes : es = fs := (List.zip_of_prod (forall₂_unique hkey hkeys hkeys')
          (forall₂_unique hvalue hvalues hvalues')).trans (List.zip_of_prod rfl rfl).symm
        rw [hes]

/-- The node `x` is read as one value only. -/
theorem Reads.unique {x : Node} {v w : Value} (hv : Reads refs x v) (hw : Reads refs x w) : v = w :=
  hv.unique_of_lt (Nat.lt_succ_self (sizeOf v)) hw

/-! ## Keys -/

/-- The node `x` is a scalar with the text `t`, or refers to one. -/
def IsKey (refs : References) (x : Node) (t : String) : Prop :=
  ∃ m anchor tag style, x.target? refs = some (.scalar m anchor tag t style)

theorem IsKey.unique {x : Node} {t u : String} (ht : IsKey refs x t) (hu : IsKey refs x u) : t = u := by
  obtain ⟨m, anchor, tag, style, ht⟩ := ht
  obtain ⟨m', anchor', tag', style', hu⟩ := hu
  cases ht.symm.trans hu
  rfl

theorem yields_mismatch {α : Type} (x : Node) (expected : String) (P : α → Prop) :
    Yields refs (x.mismatch expected : Read α) P := by
  rw [Node.mismatch]
  split <;> exact yields_fault

theorem yields_checkedText (expected : String) (check : String → Option Fault) (d : Nat) (path : Path) (x : Node) :
    Yields refs (checkedText expected check d path x) fun t => IsKey refs x t ∧ check t = none := by
  rw [checkedText]
  refine (Node.yields_follow refs x).bind fun y hy => Yields.located ?_ _
  split
  · split
    · exact yields_fault
    · rename_i hcheck
      exact yields_pure ⟨⟨_, _, _, _, hy⟩, hcheck⟩
  · exact yields_mismatch _ _ _

/-! ## What is in a field -/

section

variable {σ α : Type} {known : List (Field σ)} {get : σ → α} {name : String} {Q : Node → α → Prop}

/-- The field `f` is what fills the part `get` of a record just if it has the `name` of that part. -/
structure Fills (refs : References) (get : σ → α) (name : String) (Q : Node → α → Prop) (f : Field σ) : Prop where
  self : f.name = name → ∀ s d path x, Yields refs (f.assign s d path x) fun s' => Q x (get s')
  other : f.name ≠ name → ∀ s d path x, Yields refs (f.assign s d path x) fun s' => get s' = get s

theorem fills_self {required : Bool} {r : Reader α} {set : α → σ → σ} (hr : ∀ d path x, Yields refs (r d path x) (Q x))
    (hset : ∀ a s, get (set a s) = a) : Fills refs get name Q (.ofReader name required r set) where
  self := by
    intro _ s d path x
    exact (hr d path x).map fun a ha => (hset a s).symm ▸ ha
  other := fun h => absurd rfl h

theorem fills_other {β : Type} {other : String} {required : Bool} {r : Reader β} {set : β → σ → σ}
    (hname : other ≠ name) (hset : ∀ a s, get (set a s) = get s) :
    Fills refs get name Q (.ofReader other required r set) where
  self := fun h => absurd h hname
  other := fun _ s _ _ _ => (yields_true _).map fun a _ => hset a s

/-- What is in a field behind some entries, if it is `a` before: what the first entry with its name gives. -/
inductive Settles (refs : References) (name : String) (Q : Node → α → Prop) (a : α) : List (Node × Node) → α → Prop
  | nil : Settles refs name Q a [] a
  | here {k x : Node} {es : List (Node × Node)} {b : α} (hk : IsKey refs k name) (hx : Q x b) :
    Settles refs name Q a ((k, x) :: es) b
  | skip {k x : Node} {es : List (Node × Node)} {b : α} (hk : ¬IsKey refs k name) (h : Settles refs name Q a es b) :
    Settles refs name Q a ((k, x) :: es) b

private theorem Settles.eq_of_forall_not {a b : α} {es : List (Node × Node)} (h : Settles refs name Q a es b)
    (hnone : ∀ e ∈ es, ¬IsKey refs e.1 name) : b = a := by
  induction h with
  | nil => rfl
  | here hk => exact absurd hk (hnone _ (List.mem_cons_self ..))
  | skip _ _ ih => exact ih fun e he => hnone e (List.mem_cons_of_mem _ he)

/-- A `key` that passes the check of its record is the name of a field, where it must be one. -/
theorem exists_field_of_check {strict : Bool} {key : String}
    (h : (if strict && !known.any (·.name == key) then some (Fault.unknownField key (known.map (·.name))) else none) =
      none) (hstrict : strict = true) : ∃ f ∈ known, f.name = key := by
  subst hstrict
  split at h
  · cases h
  · rename_i hany
    rw [Bool.true_and, Bool.not_eq_true, Bool.not_eq_false'] at hany
    obtain ⟨f, hf, hname⟩ := List.any_eq_true.1 hany
    exact ⟨f, hf, eq_of_beq hname⟩

/-- The entries `es` of a record, no two of them with the name of one field, settle what is in each field. -/
theorem yields_fields_settles {strict : Bool} (hfield : ∃ f ∈ known, f.name = name)
    (hfills : ∀ f ∈ known, Fills refs get name Q f) (d : Nat) (path : Path) (seen : List String) (s : σ)
    (es : List (Node × Node)) :
    Yields refs (fields strict known d path seen s es) fun r =>
      (∀ e ∈ es, ∃ t, IsKey refs e.1 t ∧ (strict = true → ∃ f ∈ known, f.name = t)) ∧
        (name ∈ seen → ∀ e ∈ es, ¬IsKey refs e.1 name) ∧ Settles refs name Q (get s) es (get r.1) := by
  -- that a name which was met does not come again is part of what the induction carries
  induction es generalizing seen s with
  | nil => exact yields_pure ⟨List.forall_mem_nil _, fun _ => List.forall_mem_nil _, .nil⟩
  | cons e es ih =>
    obtain ⟨k, x⟩ := e
    rw [fields]
    refine (yields_checkedText _ _ d path k).bind fun key hchecked => ?_
    obtain ⟨hkey, hcheck⟩ := hchecked
    have hdeclared : ∃ t, IsKey refs k t ∧ (strict = true → ∃ f ∈ known, f.name = t) :=
      ⟨key, hkey, exists_field_of_check hcheck⟩
    split
    · rename_i hfind
      have hk : ¬IsKey refs k name := by
        intro h
        obtain ⟨g, hg, hgname⟩ := hfield
        exact List.find?_eq_none.1 hfind g hg (beq_iff_eq.2 (hgname.trans (h.unique hkey)))
      refine (yields_true _).bind fun _ _ => (ih seen s).mono ?_
      rintro r ⟨hknown, hlater, hsettles⟩
      exact ⟨List.forall_mem_cons.2 ⟨hdeclared, hknown⟩, fun hseen => List.forall_mem_cons.2 ⟨hk, hlater hseen⟩,
        .skip hk hsettles⟩
    · rename_i f hfind
      have hf : f ∈ known := List.mem_of_find?_eq_some hfind
      have hbeq := List.find?_some hfind
      have hfname : f.name = key := eq_of_beq hbeq
      split
      · exact yields_fault.bind (P := fun _ => False) fun _ h => h.elim
      · rename_i hnew
        rw [List.contains_iff_mem] at hnew
        by_cases hn : key = name
        · -- the field is met here, and no entry behind has its name again
          subst hn
          refine ((hfills f hf).self hfname s d _ x).bind fun s' hx => (ih (key :: seen) s').mono ?_
          rintro r ⟨hknown, hlater, hsettles⟩
          have hnone := hlater (List.mem_cons_self ..)
          refine ⟨List.forall_mem_cons.2 ⟨hdeclared, hknown⟩, fun hseen => absurd hseen hnew, ?_⟩
          rw [hsettles.eq_of_forall_not hnone]
          exact .here hkey hx
        · have hk : ¬IsKey refs k name := fun h => hn (hkey.unique h)
          refine ((hfills f hf).other (hfname ▸ hn) s d _ x).bind fun s' hs' => (ih (key :: seen) s').mono ?_
          rintro r ⟨hknown, hlater, hsettles⟩
          refine ⟨List.forall_mem_cons.2 ⟨hdeclared, hknown⟩, fun hseen => ?_, ?_⟩
          · exact List.forall_mem_cons.2 ⟨hk, hlater (List.mem_cons_of_mem _ hseen)⟩
          · rw [hs'] at hsettles
            exact .skip hk hsettles

private theorem yields_entriesOf (expected : String) (d : Nat) (x : Node) :
    Yields refs (entriesOf expected d x) fun r =>
    (∃ m anchor tag, x = .mapping m anchor tag r.2) ∨ (x.isOmitted = true ∧ r.2 = []) := by
  rw [entriesOf.eq_def]
  split
  · exact yields_throw
  · exact yields_pure (.inl ⟨_, _, _, rfl⟩)
  · split
    · rename_i homitted
      exact yields_pure (.inr ⟨homitted, rfl⟩)
    · exact yields_mismatch _ _ _

/-- What is in a field of a record is read from the entry with its `name`, or it is what it was at the start. -/
theorem yields_record_settles {strict : Bool} (hfield : ∃ f ∈ known, f.name = name)
    (hfills : ∀ f ∈ known, Fills refs get name Q f) (title : String) (start : σ) (d : Nat) (path : Path) (x : Node) :
    Yields refs (record title strict known start d path x) fun s => ∃ y, x.target? refs = some y ∧
      ((∃ m anchor tag es, y = .mapping m anchor tag es ∧
        (∀ e ∈ es, ∃ t, IsKey refs e.1 t ∧ (strict = true → ∃ f ∈ known, f.name = t)) ∧
        Settles refs name Q (get start) es (get s)) ∨ (y.isOmitted = true ∧ get s = get start)) := by
  rw [record]
  refine (Node.yields_follow refs x).bind fun y hy => Yields.located ?_ _
  refine (yields_entriesOf _ d y).bind fun r hes => ?_
  obtain ⟨d, es⟩ := r
  refine (yields_fields_settles hfield hfills d path [] start es).bind fun r hfields => ?_
  obtain ⟨s, seen⟩ := r
  obtain ⟨hknown, -, hsettles⟩ := hfields
  dsimp only
  split
  · exact yields_fault
  · refine yields_pure ⟨y, hy, ?_⟩
    rcases hes with ⟨m, anchor, tag, rfl⟩ | ⟨homitted, hnil⟩
    · exact .inl ⟨m, anchor, tag, es, rfl, hknown, hsettles⟩
    · dsimp only at hnil
      subst hnil
      exact .inr ⟨homitted, hsettles.eq_of_forall_not (List.forall_mem_nil _)⟩

end

end Reader

end DatasetLint.Yaml
