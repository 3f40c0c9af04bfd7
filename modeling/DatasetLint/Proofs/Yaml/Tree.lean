import DatasetLint.Proofs.Yaml.Layout
import DatasetLint.Yaml.Document

/-!
# Nodes of a value

The tokens of a value of texts make the node of that value: a scalar with its text, sequences and mappings
with their parts in order, no anchors and no tags. Two tokens more than it has are fuel enough for a value.
-/

namespace DatasetLint.Yaml

open Writer Token

mutual

/-- A node that stands for a value of texts. -/
inductive Shows : Value → Node → Prop
  | text {t : String} {m : Mark} {style : Style} : Shows (.scalar (.string t)) (.scalar m none none t style)
  | sequence {vs : List Value} {xs : List Node} {m : Mark} (h : ShowsItems vs xs) :
    Shows (.sequence vs) (.sequence m none none xs)
  | mapping {es : List (Value × Value)} {ns : List (Node × Node)} {m : Mark} (h : ShowsEntries es ns) :
    Shows (.mapping es) (.mapping m none none ns)

/-- `Shows` in pairs for the items of a sequence. -/
inductive ShowsItems : List Value → List Node → Prop
  | nil : ShowsItems [] []
  | cons {v : Value} {x : Node} {vs : List Value} {xs : List Node} (h : Shows v x) (hs : ShowsItems vs xs) :
    ShowsItems (v :: vs) (x :: xs)

/-- `Shows` in pairs for the entries of a mapping. -/
inductive ShowsEntries : List (Value × Value) → List (Node × Node) → Prop
  | nil : ShowsEntries [] []
  | cons {e : Value × Value} {n : Node × Node} {es : List (Value × Value)} {ns : List (Node × Node)}
    (hkey : Shows e.1 n.1) (h : Shows e.2 n.2) (hs : ShowsEntries es ns) : ShowsEntries (e :: es) (n :: ns)

end

namespace Grammar

variable {handles : Handles}

/-- The tokens of `v` are read as a node of it, with fuel for each of them. A sequence that is no deeper than the
mapping around it has no token at its start, nor one at its end. -/
def Parses (handles : Handles) (v : Value) : Prop :=
  ∀ {asKey indentless : Bool} (flag : Bool) {ts : List Token} (rest : List Token) (a : Anchors) {n : Nat},
    ts.map (·.kind) = valueKinds asKey indentless v → ts.length ≤ n →
    (indentless = true → flag = true ∧ ts.length + 2 ≤ n ∧ ∃ k, next? rest = some k ∧ k ≠ .blockEntry) →
    ∃ x, node handles true flag n (ts ++ rest) a = ⟨x, some rest, a⟩ ∧ Shows v x

private theorem parses_text (t : String) : Parses handles (.scalar (.string t)) := by
  intro asKey indentless flag ts rest a n hts hn _
  rw [valueKinds, List.map_eq_singleton_iff] at hts
  obtain ⟨⟨k, m, m'⟩, rfl, hk⟩ := hts
  cases hk
  obtain ⟨n, rfl⟩ : ∃ k, n = k + 1 := ⟨n - 1, by simp at hn; omega⟩
  exact ⟨_, rfl, .text⟩

/-- The kinds of token that a value of texts begins with. -/
def beginsValue : Kind → Bool
  | .scalar .. | .flowSequenceStart | .flowMappingStart => true
  | .blockSequenceStart | .blockMappingStart | .blockEntry => true
  | _ => false

private theorem valueKinds_eq_cons {v : Value} (hv : Textual v) (asKey indentless : Bool) :
    ∃ k ks, valueKinds asKey indentless v = k :: ks ∧ beginsValue k = true ∧
      (indentless = false → k ≠ .blockEntry) := by
  cases hv with
  | text t => exact ⟨_, _, rfl, rfl, by simp⟩
  | @sequence items h =>
    cases items with
    | nil => exact ⟨_, _, rfl, rfl, by simp⟩
    | cons v vs => cases indentless <;> exact ⟨_, _, rfl, rfl, by simp⟩
  | @mapping entries hkey h =>
    cases entries with
    | nil => exact ⟨_, _, rfl, rfl, by simp⟩
    | cons e es => exact ⟨_, _, rfl, rfl, by simp⟩

/-- A value `v` is not left out where one may be. -/
theorem optional_eq {v : Value} (hv : Textual v) {asKey indentless : Bool} {before : List Kind}
    (hbefore : ∀ k ∈ before, k = .key ∨ k = .value ∨ k = .blockEnd ∨ (indentless = false ∧ k = .blockEntry))
    {ts : List Token} (hts : ts.map (·.kind) = valueKinds asKey indentless v) (m : Mark) (rest : List Token)
    (a : Anchors) (read : List Token → Anchors → Parsed Node) :
    Grammar.optional m before read (ts ++ rest) a = read (ts ++ rest) a := by
  obtain ⟨k, ks, hkinds, hbegins, hentry⟩ := valueKinds_eq_cons hv asKey indentless
  rw [hkinds, List.map_eq_cons_iff] at hts
  obtain ⟨⟨k, m₁, m₂⟩, ts, rfl, rfl, -⟩ := hts
  have hnext : k ∉ before := by
    intro hmem
    rcases hbefore _ hmem with rfl | rfl | rfl | ⟨hi, rfl⟩
    · cases hbegins
    · cases hbegins
    · cases hbegins
    · exact hentry hi rfl
  simp [Grammar.optional, isNext, next?, hnext]

section Node

variable (n : Nat) (flag : Bool) (m m' : Mark) (r : List Token) (a : Anchors)

private theorem node_blockEntry : node handles true true (n + 1) (⟨.blockEntry, m, m'⟩ :: r) a =
    (indentlessItems handles n (⟨.blockEntry, m, m'⟩ :: r) a).map (.sequence m none none ·) := rfl

private theorem node_blockSequenceStart : node handles true flag (n + 1) (⟨.blockSequenceStart, m, m'⟩ :: r) a =
    (blockItems handles n r a).map (.sequence m none none ·) := rfl

private theorem node_blockMappingStart : node handles true flag (n + 1) (⟨.blockMappingStart, m, m'⟩ :: r) a =
    (blockEntries handles n r a).map (.mapping m none none ·) := rfl

end Node

/-! ## Sequences -/

/-- The tokens of the item `v`, then those of the others. -/
theorem itemKinds_cons_inv {v : Value} {vs : List Value} {ts : List Token}
    (h : ts.map (·.kind) = itemKinds (v :: vs)) : ∃ m m' us ws, ts = ⟨.blockEntry, m, m'⟩ :: (us ++ ws) ∧
      us.map (·.kind) = valueKinds false false v ∧ ws.map (·.kind) = itemKinds vs := by
  rw [itemKinds, List.cons_append, List.map_eq_cons_iff] at h
  obtain ⟨⟨k, m, m'⟩, ts, rfl, hk, h⟩ := h
  cases hk
  obtain ⟨us, ws, rfl, hus, hws⟩ := List.map_eq_append_iff.1 h
  exact ⟨m, m', us, ws, rfl, hus, hws⟩

/-- A reading `read` of items one after the other reads those of the values `vs`, and what follows ends it. -/
theorem items_eq {vs : List Value} (hv : ∀ v ∈ vs, Textual v) (h : ∀ v ∈ vs, Parses handles v)
    {read : Nat → List Token → Anchors → Parsed (List Node)} {before : List Kind}
    (hitem : ∀ n m m' r a, read (n + 1) (⟨.blockEntry, m, m'⟩ :: r) a =
      (optional m' before (node handles true false n) r a).cons (read n))
    (hbefore : ∀ k ∈ before, k = .key ∨ k = .value ∨ k = .blockEnd ∨ k = .blockEntry)
    {tail rest : List Token} (hend : ∀ n a, read (n + 1) tail a = ⟨[], some rest, a⟩)
    {ts : List Token} (hts : ts.map (·.kind) = itemKinds vs) {n : Nat} (hn : ts.length + 1 ≤ n) (a : Anchors) :
    ∃ xs, read n (ts ++ tail) a = ⟨xs, some rest, a⟩ ∧ ShowsItems vs xs := by
  -- the fuel stays above the number of tokens that are left
  induction vs generalizing ts n with
  | nil =>
    rw [itemKinds, List.map_eq_nil_iff] at hts
    subst hts
    obtain ⟨n, rfl⟩ : ∃ k, n = k + 1 := ⟨n - 1, by omega⟩
    exact ⟨[], hend n a, .nil⟩
  | cons v vs ih =>
    obtain ⟨m₁, m₂, us, ws, rfl, hus, hws⟩ := itemKinds_cons_inv hts
    rw [List.forall_mem_cons] at hv h
    obtain ⟨hfirst, hothers⟩ := h
    rw [List.length_cons, List.length_append] at hn
    obtain ⟨n, rfl⟩ : ∃ k, n = k + 1 := ⟨n - 1, by omega⟩
    obtain ⟨x, hx, hshows⟩ := hfirst false (ws ++ tail) a (n := n) hus (by omega) (by simp)
    obtain ⟨xs, hxs, hshows'⟩ := ih hv.2 hothers hws (n := n) (by omega)
    refine ⟨x :: xs, ?_, .cons hshows hshows'⟩
    rw [List.cons_append, List.append_assoc, hitem, optional_eq hv.1 (by simpa using hbefore) hus, hx, Parsed.cons]
    simp only [hxs]
    rfl

private theorem blockItems_eq {vs : List Value} (hv : ∀ v ∈ vs, Textual v) (h : ∀ v ∈ vs, Parses handles v)
    {ts : List Token} (hts : ts.map (·.kind) = itemKinds vs) {n : Nat} (hn : ts.length + 1 ≤ n) (m m' : Mark)
    (rest : List Token) (a : Anchors) :
    ∃ xs, blockItems handles n (ts ++ ⟨.blockEnd, m, m'⟩ :: rest) a = ⟨xs, some rest, a⟩ ∧ ShowsItems vs xs :=
  items_eq hv h (fun _ _ _ _ _ => rfl) (by simp) (fun _ _ => rfl) hts hn a

/-- No dash follows the items of a sequence that has no end of its own. -/
theorem indentlessItems_eq {vs : List Value} (hv : ∀ v ∈ vs, Textual v) (h : ∀ v ∈ vs, Parses handles v)
    {ts rest : List Token} (hts : ts.map (·.kind) = itemKinds vs) {n : Nat} (hn : ts.length + 1 ≤ n)
    (hrest : ∃ k, next? rest = some k ∧ k ≠ .blockEntry) (a : Anchors) :
    ∃ xs, indentlessItems handles n (ts ++ rest) a = ⟨xs, some rest, a⟩ ∧ ShowsItems vs xs := by
  refine items_eq hv h (fun _ _ _ _ _ => rfl) (by simp) (fun n a => ?_) hts hn a
  obtain ⟨k, hnext, hk⟩ := hrest
  rcases rest with - | ⟨⟨k', m, m'⟩, rest⟩
  · cases hnext
  · cases hnext
    rw [indentlessItems]
    · simp
    · intro m m' r hr
      cases hr
      exact hk rfl

/-! ## Mappings -/

/-- The tokens of the key and the value of the entry `e`, then those of the other entries. -/
theorem entryKinds_cons_inv {e : Value × Value} {es : List (Value × Value)} {ts : List Token}
    (h : ts.map (·.kind) = entryKinds (e :: es)) : ∃ m₁ m₂ m₃ m₄ ks us ws,
      ts = ⟨.key, m₁, m₂⟩ :: (ks ++ ⟨.value, m₃, m₄⟩ :: (us ++ ws)) ∧
      ks.map (·.kind) = valueKinds (isSimpleKey e.1) false e.1 ∧
      us.map (·.kind) = valueKinds false (isSimpleKey e.1) e.2 ∧ ws.map (·.kind) = entryKinds es := by
  rw [entryKinds, List.append_assoc, List.cons_append, List.map_eq_cons_iff] at h
  obtain ⟨⟨k, m₁, m₂⟩, ts, rfl, hk, hkey⟩ := h
  cases hk
  obtain ⟨ks, ts, rfl, hks, hvalue⟩ := List.map_eq_append_iff.1 hkey
  rw [List.cons_append, List.map_eq_cons_iff] at hvalue
  obtain ⟨⟨k, m₃, m₄⟩, ts, rfl, hk, hrest⟩ := hvalue
  cases hk
  obtain ⟨us, ws, rfl, hus, hws⟩ := List.map_eq_append_iff.1 hrest
  exact ⟨m₁, m₂, m₃, m₄, ks, us, ws, rfl, hks, hus, hws⟩

/-- No dash follows the value of an entry. -/
theorem next?_entries {es : List (Value × Value)} {ws : List Token} (hws : ws.map (·.kind) = entryKinds es)
    (m m' : Mark) (rest : List Token) :
    ∃ k, next? (ws ++ ⟨.blockEnd, m, m'⟩ :: rest) = some k ∧ k ≠ .blockEntry := by
  cases es with
  | nil =>
    rw [entryKinds, List.map_eq_nil_iff] at hws
    subst hws
    exact ⟨_, rfl, by simp⟩
  | cons e es =>
    obtain ⟨m₁, m₂, m₃, m₄, ks, us, ws, rfl, -⟩ := entryKinds_cons_inv hws
    exact ⟨_, rfl, by simp⟩

private theorem blockEntries_eq {es : List (Value × Value)} (hkey : ∀ e ∈ es, ∃ t, e.1 = .scalar (.string t))
    (hv : ∀ e ∈ es, Textual e.2) (h : ∀ e ∈ es, Parses handles e.2) {ts : List Token}
    (hts : ts.map (·.kind) = entryKinds es) {n : Nat} (hn : ts.length + 1 ≤ n) (m m' : Mark)
    (rest : List Token) (a : Anchors) :
    ∃ ns, blockEntries handles n (ts ++ ⟨.blockEnd, m, m'⟩ :: rest) a = ⟨ns, some rest, a⟩ ∧
      ShowsEntries es ns := by
  induction es generalizing ts n with
  | nil =>
    rw [entryKinds, List.map_eq_nil_iff] at hts
    subst hts
    obtain ⟨n, rfl⟩ : ∃ k, n = k + 1 := ⟨n - 1, by omega⟩
    exact ⟨[], rfl, .nil⟩
  | cons e es ih =>
    obtain ⟨k, v⟩ := e
    obtain ⟨m₁, m₂, m₃, m₄, ks, us, ws, rfl, hks, hus, hws⟩ := entryKinds_cons_inv hts
    rw [List.forall_mem_cons] at hkey hv h
    obtain ⟨hfirst, hothers⟩ := h
    obtain ⟨⟨t, rfl⟩, hkeys⟩ := hkey
    have hnext := next?_entries hws m m' rest
    simp only [List.length_cons, List.length_append] at hn
    -- one level of fuel for the key and one more for the value
    obtain ⟨n, rfl⟩ : ∃ k, n = k + 2 := ⟨n - 2, by omega⟩
    have hpos : 0 < ks.length := by
      rw [← List.length_map (f := (·.kind)), hks]
      exact Nat.succ_pos 0
    have htext : Parses handles (.scalar (.string t)) := parses_text t
    obtain ⟨x, hx, hxshows⟩ := htext true (⟨.value, m₃, m₄⟩ :: (us ++ (ws ++ ⟨.blockEnd, m, m'⟩ :: rest))) a
      (n := n + 1) hks (by omega) (by simp)
    obtain ⟨y, hy, hyshows⟩ := hfirst true (ws ++ ⟨.blockEnd, m, m'⟩ :: rest) a (n := n) hus
      (by omega) (fun _ => ⟨rfl, by omega, hnext⟩)
    obtain ⟨ns, hns, hshows⟩ := ih hkeys hv.2 hothers hws (n := n + 1) (by omega)
    refine ⟨(x, y) :: ns, ?_, .cons hxshows hyshows hshows⟩
    have hvalue : blockValue handles (n + 1) (⟨.value, m₃, m₄⟩ :: (us ++ (ws ++ ⟨.blockEnd, m, m'⟩ :: rest))) a =
        ⟨y, some (ws ++ ⟨.blockEnd, m, m'⟩ :: rest), a⟩ := by
      rw [blockValue, optional_eq hv.1 (by simp) hus, hy]
    have hshape : ks ++ ⟨.value, m₃, m₄⟩ :: (us ++ ws) ++ ⟨.blockEnd, m, m'⟩ :: rest =
        ks ++ ⟨.value, m₃, m₄⟩ :: (us ++ (ws ++ ⟨.blockEnd, m, m'⟩ :: rest)) := by simp
    rw [List.cons_append, hshape, blockEntries, optional_eq (.text t) (by simp) hks, hx, Parsed.pair]
    simp only [hvalue, Parsed.map, Parsed.cons, hns]

/-! ## All values of texts -/

/-- Two tokens of the kinds `k` and `k'`. -/
theorem exists_pair {ts : List Token} {k k' : Kind} (h : ts.map (·.kind) = [k, k']) :
    ∃ m₁ m₂ m₃ m₄, ts = [⟨k, m₁, m₂⟩, ⟨k', m₃, m₄⟩] := by
  rw [List.map_eq_cons_iff] at h
  obtain ⟨⟨k₁, m₁, m₂⟩, ts, rfl, rfl, h⟩ := h
  rw [List.map_eq_singleton_iff] at h
  obtain ⟨⟨k₂, m₃, m₄⟩, rfl, rfl⟩ := h
  exact ⟨m₁, m₂, m₃, m₄, rfl⟩

/-- A block between its start and its end. -/
theorem exists_block {ts : List Token} {k : Kind} {ks : List Kind} (h : ts.map (·.kind) = k :: ks ++ [.blockEnd]) :
    ∃ m₁ m₂ us m₃ m₄, ts = ⟨k, m₁, m₂⟩ :: (us ++ [⟨.blockEnd, m₃, m₄⟩]) ∧ us.map (·.kind) = ks := by
  rw [List.cons_append, List.map_eq_cons_iff] at h
  obtain ⟨⟨k₁, m₁, m₂⟩, ts, rfl, rfl, hblock⟩ := h
  obtain ⟨us, ws, rfl, hus, hend⟩ := List.map_eq_append_iff.1 hblock
  rw [List.map_eq_singleton_iff] at hend
  obtain ⟨⟨k₂, m₃, m₄⟩, rfl, rfl⟩ := hend
  exact ⟨m₁, m₂, us, m₃, m₄, rfl, hus⟩

private theorem parses_sequence {vs : List Value} (hv : ∀ v ∈ vs, Textual v) (h : ∀ v ∈ vs, Parses handles v) :
    Parses handles (.sequence vs) := by
  intro asKey indentless flag ts rest a n hts hn hindentless
  rw [valueKinds] at hts
  split at hts
  · rename_i hempty
    obtain ⟨m₁, m₂, m₃, m₄, rfl⟩ := exists_pair hts
    simp only [List.length_cons, List.length_nil] at hn
    obtain ⟨n, rfl⟩ : ∃ k, n = k + 2 := ⟨n - 2, by omega⟩
    rw [List.isEmpty_iff.1 hempty]
    exact ⟨.sequence m₁ none none [], rfl, .sequence .nil⟩
  · rename_i hempty
    split at hts
    · -- the dashes stand at the column of the mapping
      rename_i hflag
      obtain ⟨rfl, hn', hrest⟩ := hindentless hflag
      obtain ⟨n, rfl⟩ : ∃ k, n = k + 1 := ⟨n - 1, by omega⟩
      obtain ⟨xs, hxs, hshows⟩ := indentlessItems_eq hv h hts (n := n) (by omega) hrest a
      obtain ⟨w, ws, rfl⟩ := List.exists_cons_of_ne_nil (by simpa using hempty)
      obtain ⟨m₁, m₂, us, ts, rfl, -⟩ := itemKinds_cons_inv hts
      refine ⟨.sequence m₁ none none xs, ?_, .sequence hshows⟩
      rw [List.cons_append] at hxs ⊢
      rw [node_blockEntry, hxs]
      rfl
    · obtain ⟨m₁, m₂, us, m₃, m₄, rfl, hus⟩ := exists_block hts
      simp only [List.length_cons, List.length_append, List.length_nil] at hn
      obtain ⟨n, rfl⟩ : ∃ k, n = k + 1 := ⟨n - 1, by omega⟩
      obtain ⟨xs, hxs, hshows⟩ := blockItems_eq hv h hus (n := n) (by omega) m₃ m₄ rest a
      refine ⟨.sequence m₁ none none xs, ?_, .sequence hshows⟩
      rw [List.cons_append, List.append_assoc, List.singleton_append, node_blockSequenceStart, hxs]
      rfl

private theorem parses_mapping {es : List (Value × Value)} (hkey : ∀ e ∈ es, ∃ t, e.1 = .scalar (.string t))
    (hv : ∀ e ∈ es, Textual e.2) (h : ∀ e ∈ es, Parses handles e.2) : Parses handles (.mapping es) := by
  intro asKey indentless flag ts rest a n hts hn _
  rw [valueKinds] at hts
  split at hts
  · rename_i hempty
    obtain ⟨m₁, m₂, m₃, m₄, rfl⟩ := exists_pair hts
    simp only [List.length_cons, List.length_nil] at hn
    obtain ⟨n, rfl⟩ : ∃ k, n = k + 2 := ⟨n - 2, by omega⟩
    rw [List.isEmpty_iff.1 hempty]
    exact ⟨.mapping m₁ none none [], rfl, .mapping .nil⟩
  · obtain ⟨m₁, m₂, us, m₃, m₄, rfl, hus⟩ := exists_block hts
    simp only [List.length_cons, List.length_append, List.length_nil] at hn
    obtain ⟨n, rfl⟩ : ∃ k, n = k + 1 := ⟨n - 1, by omega⟩
    obtain ⟨ns, hns, hshows⟩ := blockEntries_eq hkey hv h hus (n := n) (by omega) m₃ m₄ rest a
    refine ⟨.mapping m₁ none none ns, ?_, .mapping hshows⟩
    rw [List.cons_append, List.append_assoc, List.singleton_append, node_blockMappingStart, hns]
    rfl

private theorem parses_of_textual {v : Value} (h : Textual v) : Parses handles v := by
  induction h with
  | text t => exact parses_text t
  | sequence h ih => exact parses_sequence h ih
  | mapping hkey h ih => exact parses_mapping hkey h ih

end Grammar

open Grammar in
/-- The document of a collection `v` of texts is a node of it, and nothing follows. -/
theorem Document.ofText_render {v : Value} (h : Textual v) (hscalar : ∀ t, v ≠ .scalar (.string t)) :
    ∃ x, Document.ofText v.render = ⟨some x, true, false⟩ ∧ Shows v x := by
  have hkinds := Value.kinds_render h hscalar
  obtain ⟨ts, us, htokens, hts, hus⟩ := List.map_eq_append_iff.1 hkinds
  rw [List.map_eq_singleton_iff] at hus
  obtain ⟨⟨k, m, m'⟩, rfl, hk⟩ := hus
  cases hk
  have hparses : Parses .standard v := parses_of_textual h
  obtain ⟨x, hx, hshows⟩ := hparses false [⟨.streamEnd, m, m'⟩] []
    (n := 2 * (ts ++ [(⟨.streamEnd, m, m'⟩ : Token)]).length + 2) hts
    (by rw [List.length_append]; omega) (by simp)
  refine ⟨x, ?_, hshows⟩
  have hroot : Grammar.root .standard (ts ++ [(⟨.streamEnd, m, m'⟩ : Token)]) =
      ⟨x, some [⟨.streamEnd, m, m'⟩], []⟩ := hx
  obtain ⟨k, ks, hfirst, hbegins, -⟩ := valueKinds_eq_cons h false false
  rw [hfirst, List.map_eq_cons_iff] at hts
  obtain ⟨⟨k, m₁, m₂⟩, ts, rfl, rfl, -⟩ := hts
  rw [Document.ofText, htokens, ofTokens]
  cases k with
  | scalar | flowSequenceStart | flowMappingStart | blockSequenceStart | blockMappingStart | blockEntry =>
    rw [hroot]
    rfl
  | _ => cases hbegins

end DatasetLint.Yaml
