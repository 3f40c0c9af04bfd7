import DatasetLint.Yaml.Document

/-!
# Documents without tags

The tag of a node comes from a token in front of it, so that tokens without tags make nodes without tags.
-/

namespace DatasetLint.Yaml

/-! ## Nodes and tokens without tags -/

namespace Node

/-- The tag of a node, if it has one. -/
def tag? : Node → Option String
  | scalar _ _ tag _ _ => tag
  | sequence _ _ tag _ => tag
  | mapping _ _ tag _ => tag
  | _ => none

/-- Neither `x` nor a node below it has a tag. -/
def IsTagless (x : Node) : Prop := ∀ y ∈ x.walk, y.tag? = none

theorem mem_walk_self (x : Node) : x ∈ x.walk := by
  cases x with
  | scalar => exact List.mem_singleton_self _
  | sequence => exact List.mem_cons_self ..
  | mapping => exact List.mem_cons_self ..
  | reference => exact List.mem_singleton_self _
  | broken => exact List.mem_singleton_self _

private theorem mem_walkItems {y : Node} {xs : List Node} : y ∈ walkItems xs ↔ ∃ x ∈ xs, y ∈ x.walk := by
  have hwalk : walkItems xs = xs.flatMap walk := by
    induction xs with
    | nil => rfl
    | cons x xs ih => rw [walkItems, List.flatMap_cons, ih]
  rw [hwalk, List.mem_flatMap]

theorem mem_walkEntries {y : Node} {es : List (Node × Node)} :
    y ∈ walkEntries es ↔ ∃ e ∈ es, y ∈ e.1.walk ∨ y ∈ e.2.walk := by
  have hwalk : walkEntries es = es.flatMap fun e => e.1.walk ++ e.2.walk := by
    induction es with
    | nil => rfl
    | cons e es ih => rw [walkEntries, List.flatMap_cons, ih, List.append_assoc]
  simp only [hwalk, List.mem_flatMap, List.mem_append]

variable {m : Mark} {anchor : Option Nat} {tag : Option String}

private theorem isTagless_broken : broken.IsTagless := by
  intro y hy
  cases List.mem_singleton.1 hy
  rfl

private theorem isTagless_reference (target : Option Nat) : (reference m target).IsTagless := by
  intro y hy
  cases List.mem_singleton.1 hy
  rfl

theorem isTagless_scalar (t : String) (style : Style) : (scalar m anchor none t style).IsTagless := by
  intro y hy
  cases List.mem_singleton.1 hy
  rfl

private theorem isTagless_sequence {xs : List Node} (h : ∀ x ∈ xs, x.IsTagless) :
    (sequence m anchor none xs).IsTagless := by
  intro y hy
  rw [walk] at hy
  rcases List.mem_cons.1 hy with rfl | hy
  · rfl
  · obtain ⟨x, hx, hy⟩ := mem_walkItems.1 hy
    exact h x hx y hy

private theorem isTagless_mapping {es : List (Node × Node)} (h : ∀ e ∈ es, e.1.IsTagless ∧ e.2.IsTagless) :
    (mapping m anchor none es).IsTagless := by
  intro y hy
  rw [walk] at hy
  rcases List.mem_cons.1 hy with rfl | hy
  · rfl
  · obtain ⟨e, he, hy | hy⟩ := mem_walkEntries.1 hy
    · exact (h e he).1 y hy
    · exact (h e he).2 y hy

end Node

/-- Tokens none of which is a tag. -/
def Tagless (ts : List Token) : Prop := ∀ t ∈ ts, ∀ handle suffix, t.kind ≠ .tag handle suffix

instance (k : Token.Kind) : Decidable (∀ handle suffix, k ≠ .tag handle suffix) :=
  match k with
  | .tag handle suffix => isFalse fun h => h handle suffix rfl
  | .versionDirective .. | .tagDirective .. | .documentStart | .documentEnd | .blockSequenceStart | .blockMappingStart
  | .blockEnd | .flowSequenceStart | .flowSequenceEnd | .flowMappingStart | .flowMappingEnd | .blockEntry | .flowEntry
  | .key | .value | .reference .. | .anchor .. | .scalar .. | .streamEnd => isTrue nofun

instance : DecidablePred Tagless := fun ts =>
  inferInstanceAs (Decidable (∀ t ∈ ts, ∀ handle suffix, t.kind ≠ .tag handle suffix))

private theorem Tagless.tail {t : Token} {ts : List Token} (h : Tagless (t :: ts)) : Tagless ts :=
  fun u hu => h u (List.mem_cons_of_mem _ hu)

/-! ## What is read of tokens without tags -/

namespace Parsed

/-- What was read has the property `P`, and no tag is left. -/
structure Clean {α : Type} (P : α → Prop) (p : Parsed α) : Prop where
  value : P p.value
  rest : ∀ ts ∈ p.rest, Tagless ts

variable {α β : Type} {P : α → Prop}

private theorem Clean.map {Q : β → Prop} {p : Parsed α} (h : p.Clean P) {f : α → β} (hf : ∀ a, P a → Q (f a)) :
    (p.map f).Clean Q := ⟨hf _ h.value, h.rest⟩

private theorem clean_broken (a : Anchors) : (broken a).Clean Node.IsTagless := ⟨Node.isTagless_broken, nofun⟩

private theorem Clean.cons {p : Parsed α} (h : p.Clean P) {next : List Token → Anchors → Parsed (List α)}
    (hnext : ∀ ts a, Tagless ts → (next ts a).Clean fun xs => ∀ x ∈ xs, P x) :
    (p.cons next).Clean fun xs => ∀ x ∈ xs, P x := by
  rw [Parsed.cons]
  split
  · exact ⟨List.forall_mem_singleton.2 h.value, nofun⟩
  · rename_i ts hrest
    exact (hnext ts p.anchors (h.rest ts hrest)).map fun xs hxs => List.forall_mem_cons.2 ⟨h.value, hxs⟩

private theorem Clean.pair {p : Parsed Node} (h : p.Clean Node.IsTagless) {next : List Token → Anchors → Parsed Node}
    (hnext : ∀ ts a, Tagless ts → (next ts a).Clean Node.IsTagless) :
    (p.pair next).Clean fun e => e.1.IsTagless ∧ e.2.IsTagless := by
  rw [Parsed.pair]
  split
  · exact ⟨⟨h.value, Node.isTagless_broken⟩, nofun⟩
  · rename_i ts hrest
    exact (hnext ts p.anchors (h.rest ts hrest)).map fun x hx => ⟨h.value, hx⟩

end Parsed

private theorem Properties.tag_ofTokens {ts : List Token} (h : Tagless ts) :
    (ofTokens ts).tag = none ∧ Tagless (ofTokens ts).rest := by
  rw [ofTokens.eq_def]
  split
  · exact absurd rfl (h.tail _ (List.mem_cons_self ..) _ _)
  · exact ⟨rfl, h.tail⟩
  · exact absurd rfl (h _ (List.mem_cons_self ..) _ _)
  · exact absurd rfl (h _ (List.mem_cons_self ..) _ _)
  · exact ⟨rfl, h⟩

namespace Grammar

open Token

private theorem clean_omitted (m : Mark) {ts : List Token} (h : Tagless ts) (a : Anchors) :
    (omitted m ts a).Clean Node.IsTagless := by
  refine ⟨Node.isTagless_scalar "" .plain, fun us hus => ?_⟩
  cases hus
  exact h

private theorem clean_optional (m : Mark) (before : List Kind) {read : List Token → Anchors → Parsed Node}
    (hread : ∀ ts a, Tagless ts → (read ts a).Clean Node.IsTagless) {ts : List Token} (h : Tagless ts) (a : Anchors) :
    (Grammar.optional m before read ts a).Clean Node.IsTagless := by
  rw [Grammar.optional]
  split
  · exact Parsed.clean_broken a
  · split
    · exact clean_omitted m h a
    · exact hread ts a h

/-- What all functions of the grammar make of tokens without tags, with the fuel `n`. -/
structure ReadsTagless (handles : Handles) (n : Nat) : Prop where
  node : ∀ block indentless ts a, Tagless ts → (node handles block indentless n ts a).Clean Node.IsTagless
  blockItems : ∀ ts a, Tagless ts → (blockItems handles n ts a).Clean fun xs => ∀ x ∈ xs, x.IsTagless
  indentlessItems : ∀ ts a, Tagless ts → (indentlessItems handles n ts a).Clean fun xs => ∀ x ∈ xs, x.IsTagless
  blockEntries : ∀ ts a, Tagless ts →
    (blockEntries handles n ts a).Clean fun es => ∀ e ∈ es, e.1.IsTagless ∧ e.2.IsTagless
  blockValue : ∀ ts a, Tagless ts → (blockValue handles n ts a).Clean Node.IsTagless
  flowItems : ∀ first ts a, Tagless ts → (flowItems handles first n ts a).Clean fun xs => ∀ x ∈ xs, x.IsTagless
  singleEntry : ∀ ts a, Tagless ts → (singleEntry handles n ts a).Clean fun e => e.1.IsTagless ∧ e.2.IsTagless
  flowValue : ∀ close ts a, Tagless ts → (flowValue handles close n ts a).Clean Node.IsTagless
  flowEntries : ∀ first ts a, Tagless ts →
    (flowEntries handles first n ts a).Clean fun es => ∀ e ∈ es, e.1.IsTagless ∧ e.2.IsTagless

private theorem clean_brokenItems (a : Anchors) :
    (⟨[.broken], none, a⟩ : Parsed (List Node)).Clean fun xs => ∀ x ∈ xs, x.IsTagless :=
  ⟨List.forall_mem_singleton.2 Node.isTagless_broken, nofun⟩

private theorem clean_brokenEntries (a : Anchors) :
    (⟨[(.broken, .broken)], none, a⟩ : Parsed (List (Node × Node))).Clean fun es =>
      ∀ e ∈ es, e.1.IsTagless ∧ e.2.IsTagless :=
  ⟨List.forall_mem_singleton.2 ⟨Node.isTagless_broken, Node.isTagless_broken⟩, nofun⟩

private theorem clean_nil {α : Type} {P : α → Prop} {ts : List Token} (h : Tagless ts) (a : Anchors) :
    (⟨[], some ts, a⟩ : Parsed (List α)).Clean fun xs => ∀ x ∈ xs, P x := by
  refine ⟨nofun, fun us hus => ?_⟩
  cases hus
  exact h

private theorem readsTagless_zero (handles : Handles) : ReadsTagless handles 0 where
  node _ _ _ a _ := Parsed.clean_broken a
  blockItems _ a _ := clean_brokenItems a
  indentlessItems _ a _ := clean_brokenItems a
  blockEntries _ a _ := clean_brokenEntries a
  blockValue _ a _ := Parsed.clean_broken a
  flowItems _ _ a _ := clean_brokenItems a
  singleEntry _ _ _ := ⟨⟨Node.isTagless_broken, Node.isTagless_broken⟩, nofun⟩
  flowValue _ _ a _ := Parsed.clean_broken a
  flowEntries _ _ a _ := clean_brokenEntries a

section

variable {handles : Handles} {n : Nat} (ih : ReadsTagless handles n)

include ih

private theorem clean_node (block indentless : Bool) (ts : List Token) (a : Anchors) (h : Tagless ts) :
    (node handles block indentless (n + 1) ts a).Clean Node.IsTagless := by
  rw [node.eq_def]
  dsimp only
  split
  · exact Parsed.clean_broken a
  · refine ⟨Node.isTagless_reference _, fun us hus => ?_⟩
    cases hus
    exact h.tail
  · -- the tag comes from the properties in front of the node, and they have none
    rename_i first r _
    obtain ⟨htag, hrest⟩ := Properties.tag_ofTokens h
    have hfull : (Properties.ofTokens (first :: r)).fullTag? handles = some none := by
      rw [Properties.fullTag?, htag]
    rw [hfull]
    dsimp only
    generalize (Properties.ofTokens (first :: r)).rest = us at hrest
    split
    · exact Parsed.clean_broken _
    · rename_i k m m' us
      split
      · exact (ih.indentlessItems _ _ hrest).map fun xs hxs => Node.isTagless_sequence hxs
      · split
        · refine ⟨Node.isTagless_scalar _ _, fun vs hvs => ?_⟩
          cases hvs
          exact hrest.tail
        · exact (ih.flowItems _ _ _ hrest.tail).map fun xs hxs => Node.isTagless_sequence hxs
        · exact (ih.flowEntries _ _ _ hrest.tail).map fun es hes => Node.isTagless_mapping hes
        · split
          · exact (ih.blockItems _ _ hrest.tail).map fun xs hxs => Node.isTagless_sequence hxs
          · exact Parsed.clean_broken _
        · split
          · exact (ih.blockEntries _ _ hrest.tail).map fun es hes => Node.isTagless_mapping hes
          · exact Parsed.clean_broken _
        · split
          · refine ⟨Node.isTagless_scalar _ _, fun vs hvs => ?_⟩
            cases hvs
            exact hrest
          · exact Parsed.clean_broken _

private theorem clean_blockItems (ts : List Token) (a : Anchors) (h : Tagless ts) :
    (blockItems handles (n + 1) ts a).Clean fun xs => ∀ x ∈ xs, x.IsTagless := by
  rw [blockItems.eq_def]
  dsimp only
  split
  · exact (clean_optional _ _ (ih.node true false) h.tail a).cons ih.blockItems
  · exact clean_nil h.tail a
  · exact clean_brokenItems a

private theorem clean_indentlessItems (ts : List Token) (a : Anchors) (h : Tagless ts) :
    (indentlessItems handles (n + 1) ts a).Clean fun xs => ∀ x ∈ xs, x.IsTagless := by
  rw [indentlessItems.eq_def]
  dsimp only
  split
  · exact clean_brokenItems a
  · exact (clean_optional _ _ (ih.node true false) h.tail a).cons ih.indentlessItems
  · exact clean_nil h a

private theorem clean_blockEntries (ts : List Token) (a : Anchors) (h : Tagless ts) :
    (blockEntries handles (n + 1) ts a).Clean fun es => ∀ e ∈ es, e.1.IsTagless ∧ e.2.IsTagless := by
  rw [blockEntries.eq_def]
  dsimp only
  split
  · exact ((clean_optional _ _ (ih.node true true) h.tail a).pair ih.blockValue).cons ih.blockEntries
  · exact clean_nil h.tail a
  · exact clean_brokenEntries a

private theorem clean_blockValue (ts : List Token) (a : Anchors) (h : Tagless ts) :
    (blockValue handles (n + 1) ts a).Clean Node.IsTagless := by
  rw [blockValue.eq_def]
  dsimp only
  split
  · exact Parsed.clean_broken a
  · exact clean_optional _ _ (ih.node true true) h.tail a
  · exact clean_omitted _ h a

private theorem clean_flowItems (first : Bool) (ts : List Token) (a : Anchors) (h : Tagless ts) :
    (flowItems handles first (n + 1) ts a).Clean fun xs => ∀ x ∈ xs, x.IsTagless := by
  rw [flowItems.eq_def]
  dsimp -zeta only
  extract_lets item
  -- an item is read alike at the start and behind a comma
  have hitem : ∀ ts, Tagless ts → (item ts).Clean fun xs => ∀ x ∈ xs, x.IsTagless := by
    intro ts h
    dsimp only [item]
    split
    · exact clean_brokenItems a
    · exact clean_nil h.tail a
    · refine Parsed.Clean.cons ((ih.singleEntry _ a h.tail).map fun e he => ?_) (ih.flowItems false)
      exact Node.isTagless_mapping (List.forall_mem_singleton.2 he)
    · exact (ih.node false false _ a h).cons (ih.flowItems false)
  split
  · exact clean_nil h.tail a
  · split
    · exact hitem _ h
    · exact hitem _ h.tail
  · split
    · exact hitem _ h
    · exact clean_brokenItems a

private theorem clean_singleEntry (ts : List Token) (a : Anchors) (h : Tagless ts) :
    (singleEntry handles (n + 1) ts a).Clean fun e => e.1.IsTagless ∧ e.2.IsTagless := by
  rw [singleEntry.eq_def]
  dsimp only
  refine Parsed.Clean.pair ?_ fun ts a h => ih.flowValue _ ts a h
  split
  · exact Parsed.clean_broken a
  · split
    · exact clean_omitted _ h.tail a
    · exact ih.node false false _ a h

private theorem clean_flowValue (close : Kind) (ts : List Token) (a : Anchors) (h : Tagless ts) :
    (flowValue handles close (n + 1) ts a).Clean Node.IsTagless := by
  rw [flowValue.eq_def]
  dsimp only
  split
  · exact Parsed.clean_broken a
  · exact clean_optional _ _ (ih.node false false) h.tail a
  · exact clean_omitted _ h a

private theorem clean_flowEntries (first : Bool) (ts : List Token) (a : Anchors) (h : Tagless ts) :
    (flowEntries handles first (n + 1) ts a).Clean fun es => ∀ e ∈ es, e.1.IsTagless ∧ e.2.IsTagless := by
  rw [flowEntries.eq_def]
  dsimp -zeta only
  extract_lets entry
  have hentry : ∀ ts, Tagless ts → (entry ts).Clean fun es => ∀ e ∈ es, e.1.IsTagless ∧ e.2.IsTagless := by
    intro ts h
    dsimp only [entry]
    split
    · exact clean_brokenEntries a
    · exact clean_nil h.tail a
    · exact ((clean_optional _ _ (ih.node false false) h.tail a).pair (ih.flowValue _)).cons (ih.flowEntries false)
    · refine ((ih.node false false _ a h).pair fun ts a h => ?_).cons (ih.flowEntries false)
      split
      · exact Parsed.clean_broken a
      · exact clean_omitted _ h a
  split
  · exact clean_nil h.tail a
  · split
    · exact hentry _ h
    · exact hentry _ h.tail
  · split
    · exact hentry _ h
    · exact clean_brokenEntries a

private theorem readsTagless_succ : ReadsTagless handles (n + 1) where
  node := clean_node ih
  blockItems := clean_blockItems ih
  indentlessItems := clean_indentlessItems ih
  blockEntries := clean_blockEntries ih
  blockValue := clean_blockValue ih
  flowItems := clean_flowItems ih
  singleEntry := clean_singleEntry ih
  flowValue := clean_flowValue ih
  flowEntries := clean_flowEntries ih

end

/-- With any fuel `n`, tokens without tags make nodes without tags. -/
theorem readsTagless (handles : Handles) (n : Nat) : ReadsTagless handles n := by
  induction n with
  | zero => exact readsTagless_zero handles
  | succ n ih => exact readsTagless_succ ih

private theorem clean_root (handles : Handles) {ts : List Token} (h : Tagless ts) :
    (root handles ts).Clean Node.IsTagless :=
  (readsTagless handles _).node true false ts [] h

end Grammar

/-! ## Documents -/

namespace Document

private theorem tagless_directives {version : Bool} {handles : Handles} {ts : List Token} (h : Tagless ts)
    {p : Handles × List Token} (hp : directives version handles ts = some p) : Tagless p.2 := by
  fun_induction directives version handles ts with
  | case1 => cases hp
  | case2 version handles major minor m m' r _ ih => exact ih h.tail hp
  | case3 => cases hp
  | case4 version handles handle lead m m' r _ ih => exact ih h.tail hp
  | case5 version handles ts =>
    cases hp
    exact h

theorem root_ofRoot (p : Parsed Node) : (ofRoot p).root = some p.value := by
  rw [ofRoot]
  split <;> rfl

private theorem isTagless_ofRoot {p : Parsed Node} (h : p.Clean Node.IsTagless) :
    ∀ x ∈ (ofRoot p).root, x.IsTagless := by
  rw [root_ofRoot]
  rintro _ ⟨⟩
  exact h.value

/-- The document of tokens `ts` without tags has no tags. -/
theorem isTagless_ofTokens {ts : List Token} (h : Tagless ts) : ∀ x ∈ (ofTokens ts).root, x.IsTagless := by
  have hbroken : ∀ x ∈ broken.root, x.IsTagless := by
    rintro _ ⟨⟩
    exact Node.isTagless_broken
  rw [ofTokens]
  split
  · exact hbroken
  · split
    · exact nofun
    · split
      · exact isTagless_ofRoot (Grammar.clean_root _ h)
      · split
        · rename_i handles m m' r hdirectives
          have hr : Tagless r := (tagless_directives h hdirectives).tail
          split
          · exact hbroken
          · split
            · exact isTagless_ofRoot (Grammar.clean_omitted _ hr [])
            · exact isTagless_ofRoot (Grammar.clean_root _ hr)
        · exact hbroken

end Document

end DatasetLint.Yaml
