import DatasetLint.Config.Discovery
import DatasetLint.Proofs.Config.Validation

/-!
# Keys with a meaning

Every key of the parameters must be one that has a meaning, or the text is refused. A rule takes what it has from the
entries with the names of its fields; whatever other keys it has are passed over.
-/

namespace DatasetLint

namespace Yaml

open Read

variable {refs : References} {k v x : Node}

namespace Node

/-- The entries of the mapping `x`, or of the one that `x` refers to. -/
def entries (refs : References) (x : Node) : List (Node × Node) :=
  match x.target? refs with
  | some (.mapping _ _ _ es) => es
  | _ => []

/-- The text of `x` as a key. -/
def key? (refs : References) (x : Node) : Option String := (x.target? refs).bind keyText?

/-- A plain scalar that stands for nothing, without tag or under the tag for null. -/
def IsNull (x : Node) : Prop :=
  ∃ m anchor tag t, x = .scalar m anchor tag t .plain ∧ (tag = none ∨ tag = some (coreTag "null")) ∧
    Scalar.ofPlain t = .null

private theorem entries_of_isOmitted {y : Node} (hy : x.target? refs = some y) (h : y.isOmitted = true) :
    x.entries refs = [] := by
  obtain ⟨m, anchor, tag, t, style, rfl⟩ := Config.Node.exists_scalar_of_isOmitted h
  rw [entries, hy]

private theorem parts_of_isOmitted {y : Node} (hy : x.target? refs = some y) (h : y.isOmitted = true) :
    x.parts refs = [] := by
  obtain ⟨m, anchor, tag, t, style, rfl⟩ := Config.Node.exists_scalar_of_isOmitted h
  rw [parts, hy]

end Node

namespace Reader

theorem isKey_iff {t : String} : IsKey refs x t ↔ x.key? refs = some t := by
  rw [Node.key?, Option.bind_eq_some_iff]
  constructor
  · rintro ⟨m, anchor, tag, style, hx⟩
    exact ⟨_, hx, rfl⟩
  · rintro ⟨y, hx, hy⟩
    cases y with
    | scalar m anchor tag u style =>
      cases hy
      exact ⟨m, anchor, tag, style, hx⟩
    | sequence => cases hy
    | mapping => cases hy
    | reference => cases hy
    | broken => cases hy

/-! ## Options and lists -/

/-- What `x` is as a text that can be null. -/
inductive IsOptional (refs : References) (x : Node) : Option String → Prop
  | null {y : Node} (hy : x.target? refs = some y) (hnull : y.IsNull) : IsOptional refs x none
  | text {y : Node} {t : String} (hy : x.target? refs = some y) (hnull : ¬y.IsNull) (ht : IsKey refs y t) :
    IsOptional refs x (some t)

private theorem yields_isNull (x : Node) : Yields refs (isNull x) fun b => b = true ↔ x.IsNull := by
  unfold isNull
  split
  · rename_i m anchor tag t
    have hnull : (Node.scalar m anchor tag t .plain).IsNull ↔
        (tag = none ∨ tag = some (Node.coreTag "null")) ∧ (t.isEmpty || Scalar.isNullWord t) = true := by
      rw [← Scalar.ofPlain_eq_null_iff]
      constructor
      · rintro ⟨_, _, _, _, heq, h⟩
        cases heq
        exact h
      · exact fun h => ⟨m, anchor, tag, t, rfl, h⟩
    split
    · rename_i htag
      split
      · rename_i hword
        exact yields_pure (iff_of_true rfl (hnull.2 ⟨.inr htag, by rw [hword, Bool.or_true]⟩))
      · exact yields_fault
    · rename_i htag
      rw [or_iff_left htag, ← Option.isNone_iff_eq_none, ← Bool.and_eq_true] at hnull
      exact yields_pure hnull.symm
  · rename_i hscalar
    refine yields_pure (iff_of_false Bool.false_ne_true ?_)
    rintro ⟨m, anchor, tag, t, rfl, -⟩
    exact hscalar m anchor tag t rfl

private theorem yields_option_text (expected : String) (d : Nat) (path : Path) (x : Node) :
    Yields refs (option (text expected) d path x) (IsOptional refs x) := by
  rw [option]
  refine (Node.yields_follow refs x).bind fun y hy => (yields_isNull y).bind fun b hb => ?_
  cases b with
  | true => exact yields_pure (.null hy (hb.1 rfl))
  | false =>
    refine (yields_checkedText expected _ d path y).map fun t ht => ?_
    exact .text hy (fun hnull => Bool.false_ne_true (hb.2 hnull)) ht.1

private theorem yields_list {α : Type} {r : Reader α} {P : Node → α → Prop}
    (hr : ∀ d path x, Yields refs (r d path x) (P x)) (d : Nat) (path : Path) (x : Node) :
    Yields refs (list r d path x) (List.Forall₂ P (x.parts refs)) := by
  rw [list]
  refine (Node.yields_follow refs x).bind fun y hy => Yields.located ?_ _
  split
  · exact yields_throw
  · rename_i xs d
    rw [Node.parts, hy]
    exact yields_items (fun i z => hr d (.item path i) z) xs 0
  · split
    · rename_i homitted
      rw [Node.parts_of_isOmitted hy homitted]
      exact yields_pure .nil
    · exact yields_mismatch _ _ _

/-! ## Records and their entries -/

section

variable {σ α : Type} {known : List (Field σ)} {get : σ → α} {name : String} {Q : Node → α → Prop}

/-- The part `get` of a record is settled by the entries for `name` of its node `x`. -/
theorem yields_record_entries {strict : Bool} (hfield : ∃ f ∈ known, f.name = name)
    (hfills : ∀ f ∈ known, Fills refs get name Q f) (title : String) (start : σ) (d : Nat) (path : Path) (x : Node) :
    Yields refs (record title strict known start d path x) fun s =>
      (∀ e ∈ x.entries refs, ∃ t, IsKey refs e.1 t ∧ (strict = true → ∃ f ∈ known, f.name = t)) ∧
        Settles refs name Q (get start) (x.entries refs) (get s) := by
  refine (yields_record_settles hfield hfills title start d path x).mono ?_
  rintro s ⟨y, hy, ⟨m, anchor, tag, es, rfl, hkeys, hsettles⟩ | ⟨homitted, hstart⟩⟩
  · rw [Node.entries, hy]
    exact ⟨hkeys, hsettles⟩
  · rw [Node.entries_of_isOmitted hy homitted, hstart]
    exact ⟨List.forall_mem_nil _, .nil⟩

/-! ## Entries without a field -/

variable {m : Mark} {anchor : Option Nat} {tag : Option String} {t : String} {style : Style}

/-- An entry with the key `t`, which no field has, makes no difference to the entries around it. -/
theorem fields_pass (hnone : ∀ f ∈ known, f.name ≠ t) (hv : v.firstStop = none) (d : Nat) (path : Path)
    (seen : List String) (s : σ) (es fs : List (Node × Node)) :
    fields false known d path seen s (es ++ (.scalar m anchor tag t style, v) :: fs) =
      fields false known d path seen s (es ++ fs) := by
  -- the entries before it are read in the same way, whichever fields were met and filled
  induction es generalizing seen s with
  | nil =>
    have hkey : fieldKey false known d path (.scalar m anchor tag t style) = pure t := rfl
    have hfind : known.find? (·.name == t) = none := List.find?_eq_none.2 fun f hf => by
      rw [beq_iff_eq]
      exact hnone f hf
    rw [List.nil_append, List.nil_append, fields, hkey, pure_bind, hfind]
    dsimp only
    rw [Node.ignore, hv, pure_bind]
  | cons e es ih =>
    obtain ⟨k, x⟩ := e
    rw [List.cons_append, List.cons_append, fields, fields]
    simp only [ih]

private theorem record_pass (hnone : ∀ f ∈ known, f.name ≠ t) (hv : v.firstStop = none) (title : String) (start : σ)
    (d : Nat)
    (path : Path) (m' : Mark) (anchor' : Option Nat) (tag' : Option String) (es fs : List (Node × Node)) :
    record title false known start d path (.mapping m' anchor' tag' (es ++ (.scalar m anchor tag t style, v) :: fs)) =
      record title false known start d path (.mapping m' anchor' tag' (es ++ fs)) := by
  have hfollow : ∀ es, Node.follow (.mapping m' anchor' tag' es) = pure (.mapping m' anchor' tag' es) := fun _ => rfl
  rw [record, record, hfollow, hfollow, pure_bind, pure_bind]
  refine congrArg (located ⟨m', path⟩) ?_
  cases d with
  | zero => rfl
  | succ d =>
    have hentries : ∀ es, entriesOf ("struct " ++ title) (d + 1) (.mapping m' anchor' tag' es) = pure (d, es) :=
      fun _ => rfl
    rw [hentries, hentries, pure_bind, pure_bind]
    dsimp only
    rw [fields_pass hnone hv]

end

end Reader

end Yaml

namespace Config

open Yaml Yaml.Reader

variable {refs : References}

namespace Recipe

/-- The keys that a `Recipe` can have. -/
def keys : List String := ["query", "template", "target"]

/-- The rule `r` is made of `x`: each field has what the entry with its name says. -/
structure IsFrom (refs : References) (x : Yaml.Node) (r : Recipe) : Prop where
  query : Settles refs "query" (IsOptional refs) none (x.entries refs) r.query
  template : Settles refs "template" (IsOptional refs) none (x.entries refs) r.template
  target : Settles refs "target" (IsKey refs) "" (x.entries refs) r.target

/-- `reader` reads a record with a field for each of the `keys`. -/
theorem reader_eq_record (refs : References) : ∃ known, reader = Reader.record "GenerationRule" false known default ∧
    known.map (·.name) = keys ∧ ∀ f ∈ known, Fills refs query "query" (IsOptional refs) f ∧
      Fills refs template "template" (IsOptional refs) f ∧ Fills refs target "target" (IsKey refs) f := by
  have htext : ∀ d path x, Read.Yields refs (text "a string" d path x) (IsKey refs x) := fun d path x =>
    (yields_checkedText "a string" _ d path x).mono fun _ h => h.1
  have hoption : ∀ d path x, Read.Yields refs (option (text "a string") d path x) (IsOptional refs x) :=
    yields_option_text "a string"
  obtain ⟨hqt, hqg, htg⟩ : "query" ≠ "template" ∧ "query" ≠ "target" ∧ "template" ≠ "target" := by decide
  refine ⟨_, rfl, rfl, fun f hf => ?_⟩
  simp only [List.mem_cons, List.not_mem_nil, or_false] at hf
  rcases hf with rfl | rfl | rfl
  · exact ⟨fills_self hoption fun _ _ => rfl, fills_other hqt fun _ _ => rfl, fills_other hqg fun _ _ => rfl⟩
  · exact ⟨fills_other hqt.symm fun _ _ => rfl, fills_self hoption fun _ _ => rfl, fills_other htg fun _ _ => rfl⟩
  · exact ⟨fills_other hqg.symm fun _ _ => rfl, fills_other htg.symm fun _ _ => rfl, fills_self htext fun _ _ => rfl⟩

private theorem yields_isFrom (d : Nat) (path : Path) (x : Yaml.Node) : Read.Yields refs (reader d path x)
    (IsFrom refs x) := by
  obtain ⟨known, hreader, hnames, hfills⟩ := reader_eq_record refs
  have hfield : ∀ {name}, name ∈ keys → ∃ f ∈ known, f.name = name := fun h => List.mem_map.1 (hnames ▸ h)
  rw [hreader]
  intro n r k hr
  constructor
  · exact (yields_record_entries (hfield (by decide)) (fun f hf => (hfills f hf).1) _ _ d path x n r k hr).2
  · exact (yields_record_entries (hfield (by decide)) (fun f hf => (hfills f hf).2.1) _ _ d path x n r k hr).2
  · exact (yields_record_entries (hfield (by decide)) (fun f hf => (hfills f hf).2.2) _ _ d path x n r k hr).2

/-- A rule is the same without an entry whose key `t` has no meaning, whatever unbroken value `v` it has. -/
theorem reader_pass {t : String} (ht : t ∉ keys) {v : Yaml.Node} (hv : v.firstStop = none) (d : Nat) (path : Path)
    (m m' : Mark) (anchor anchor' : Option Nat) (tag tag' : Option String) (style : Style)
    (es fs : List (Yaml.Node × Yaml.Node)) :
    reader d path (.mapping m anchor tag (es ++ (.scalar m' anchor' tag' t style, v) :: fs)) =
      reader d path (.mapping m anchor tag (es ++ fs)) := by
  obtain ⟨known, hreader, hnames, -⟩ := reader_eq_record ⟨[], 0⟩
  have hnone : ∀ f ∈ known, f.name ≠ t := by
    rintro f hf rfl
    exact ht (hnames ▸ List.mem_map_of_mem hf)
  rw [hreader]
  exact record_pass hnone hv _ _ d path m anchor tag es fs

end Recipe

namespace Parameters

/-- Each of the rules `rs` comes from one part of `x`. -/
def AreFrom (refs : References) (x : Yaml.Node) (rs : List Recipe) : Prop :=
  List.Forall₂ (Recipe.IsFrom refs) (x.parts refs) rs

private theorem yields_rules (d : Nat) (path : Path) (x : Yaml.Node) : Read.Yields refs (reader d path x) fun p =>
    (∀ e ∈ x.entries refs, ∃ t ∈ keys, IsKey refs e.1 t) ∧
      Settles refs "rules" (AreFrom refs) [] (x.entries refs) p.rules := by
  have hrules : ∀ d path x, Read.Yields refs (list Recipe.reader d path x) (AreFrom refs x) :=
    yields_list Recipe.yields_isFrom
  obtain ⟨known, hreader, hnames, hfills⟩ : ∃ known, reader = Reader.record "LintParameters" true known default ∧
      known.map (·.name) = keys ∧ ∀ f ∈ known, Fills refs rules "rules" (AreFrom refs) f := by
    refine ⟨_, rfl, rfl, fun f hf => ?_⟩
    simp only [List.mem_cons, List.not_mem_nil, or_false] at hf
    rcases hf with rfl | rfl | rfl | rfl | rfl | rfl | rfl
    · exact fills_other (by decide) fun _ _ => rfl
    · exact fills_other (by decide) fun _ _ => rfl
    · exact fills_other (by decide) fun _ _ => rfl
    · exact fills_other (by decide) fun _ _ => rfl
    · exact fills_other (by decide) fun _ _ => rfl
    · exact fills_self hrules fun _ _ => rfl
    · exact fills_other (by decide) fun _ _ => rfl
  rw [hreader]
  refine (yields_record_entries (List.mem_map.1 (hnames ▸ by decide)) hfills _ _ d path x).mono ?_
  rintro p ⟨hkeys, hsettles⟩
  refine ⟨fun e he => ?_, hsettles⟩
  obtain ⟨t, hkey, hdeclared⟩ := hkeys e he
  exact ⟨t, hnames ▸ List.mem_map.2 (hdeclared rfl), hkey⟩

private theorem rules_of_ofText {s : String} {p : Parameters} (h : ofText s = .ok p) :
    (∀ e ∈ (Document.ofText s).node.entries (Document.ofText s).references,
      ∃ t ∈ keys, IsKey (Document.ofText s).references e.1 t) ∧
    Settles (Document.ofText s).references "rules" (AreFrom (Document.ofText s).references) []
      ((Document.ofText s).node.entries (Document.ofText s).references) p.rules := by
  rcases ofText_eq_ok h with ⟨hblank, rfl⟩ | ⟨hread, -⟩
  · -- a blank text has no entries
    have hentries : (Document.ofText s).node.entries (Document.ofText s).references = [] := by
      rw [Yaml.Node.entries]
      rcases node_of_isBlank hblank with hnode | ⟨m, t, style, hnode⟩
      · rw [hnode]
        rfl
      · rw [hnode]
        rfl
    rw [hentries]
    exact ⟨List.forall_mem_nil _, .nil⟩
  · obtain ⟨n, hn⟩ := Document.read_eq_ok hread
    exact yields_rules depthLimit .root _ 0 p n hn

/-- Every key of the rules in `x` has a meaning. -/
def RulesDeclared (refs : References) (x : Yaml.Node) : Prop :=
  ∀ e ∈ x.entries refs, IsKey refs e.1 "rules" → ∀ y ∈ e.2.parts refs, ∀ f ∈ y.entries refs,
    ∃ t ∈ Recipe.keys, IsKey refs f.1 t

/-- Every key of the parameters in `x`, and every key of their rules, has a meaning. -/
structure AllDeclared (refs : References) (x : Yaml.Node) : Prop where
  parameters : ∀ e ∈ x.entries refs, ∃ t ∈ keys, IsKey refs e.1 t
  rules : RulesDeclared refs x

/-- Parameters that `ofFileText` reads have no key outside `keys` but in their rules, each of which comes from one
node by the `Recipe.keys`, `AreFrom`; so all keys have a meaning exactly if `RulesDeclared`. In a rule, entries with
another key `t` are passed over, whatever unbroken value `v` they have. -/
theorem ofFileText_keys (path s : String) :
    ((∃ m, ofFileText path s = .error (.config path m)) ∨ ∃ p, ofFileText path s = .ok p ∧
      (∀ e ∈ (Document.ofText s).node.entries (Document.ofText s).references,
        ∃ t ∈ keys, IsKey (Document.ofText s).references e.1 t) ∧
      (AllDeclared (Document.ofText s).references (Document.ofText s).node ↔
        RulesDeclared (Document.ofText s).references (Document.ofText s).node) ∧
      Settles (Document.ofText s).references "rules" (AreFrom (Document.ofText s).references) []
        ((Document.ofText s).node.entries (Document.ofText s).references) p.rules) ∧
    ∀ t ∉ Recipe.keys, ∀ v : Yaml.Node, v.firstStop = none → ∀ d path m anchor tag m' anchor' tag' style es fs,
      Recipe.reader d path (.mapping m anchor tag (es ++ (.scalar m' anchor' tag' t style, v) :: fs)) =
        Recipe.reader d path (.mapping m anchor tag (es ++ fs)) := by
  refine ⟨?_, fun t ht v hv d path m anchor tag m' anchor' tag' style es fs =>
    Recipe.reader_pass ht hv d path m m' anchor anchor' tag tag' style es fs⟩
  rw [ofFileText]
  cases hp : ofText s with
  | error e => exact .inl ⟨e.message, rfl⟩
  | ok p =>
    obtain ⟨hkeys, hrules⟩ := rules_of_ofText hp
    exact .inr ⟨p, rfl, hkeys, ⟨fun h => h.rules, fun h => ⟨hkeys, h⟩⟩, hrules⟩

/-- A rule with the key `targt`, which has no meaning, before one that has. -/
theorem ofFileText_keys_passedOver : ∃ p, ofFileText "c.yml" "rules:\n- targt: in\n  target: out\n" = .ok p ∧
    p.rules = [⟨none, none, "out"⟩] ∧
    (∀ e ∈ (Document.ofText "rules:\n- targt: in\n  target: out\n").node.entries
        (Document.ofText "rules:\n- targt: in\n  target: out\n").references,
      ∃ t ∈ keys, IsKey (Document.ofText "rules:\n- targt: in\n  target: out\n").references e.1 t) ∧
    "targt" ∉ Recipe.keys ∧ (Yaml.Node.scalar .start none none "in" .plain).firstStop = none ∧
      ∀ d path m es, Recipe.reader d path (.mapping m none none
        ((.scalar .start none none "targt" .plain, .scalar .start none none "in" .plain) :: es)) =
          Recipe.reader d path (.mapping m none none es) := by
  have hrules : (ofFileText "c.yml" "rules:\n- targt: in\n  target: out\n").toOption.map (·.rules) =
      some [⟨none, none, "out"⟩] := by
    decide +kernel
  obtain ⟨haccepted, hpass⟩ := ofFileText_keys "c.yml" "rules:\n- targt: in\n  target: out\n"
  rcases haccepted with ⟨m, herror⟩ | ⟨p, hp, hkeys, -⟩
  · rw [herror] at hrules
    cases hrules
  · rw [hp] at hrules
    refine ⟨p, hp, Option.some.inj hrules, hkeys, by decide, rfl, fun d path m es => ?_⟩
    exact hpass "targt" (by decide) _ rfl d path m none none .start none none .plain [] es

private theorem not_allDeclared {x : Yaml.Node} {t : String} (ht : t ∉ Recipe.keys)
    (h : (x.entries refs).any (fun e => e.1.key? refs == some "rules" &&
      (e.2.parts refs).any fun y => (y.entries refs).any fun f => f.1.key? refs == some t) = true) :
    ¬AllDeclared refs x := by
  intro hdeclared
  obtain ⟨e, he, h⟩ := List.any_eq_true.1 h
  rw [Bool.and_eq_true, beq_iff_eq, ← isKey_iff] at h
  obtain ⟨hname, h⟩ := h
  obtain ⟨y, hy, h⟩ := List.any_eq_true.1 h
  obtain ⟨f, hf, h⟩ := List.any_eq_true.1 h
  rw [beq_iff_eq, ← isKey_iff] at h
  obtain ⟨u, hu, hkey⟩ := hdeclared.rules e he hname y hy f hf
  exact ht (hkey.unique h ▸ hu)

/-- A rule whose only key is misspelled is read as one that says nothing. -/
theorem ofFileText_misspelled : ∃ p, ofFileText "c.yml" "rules:\n- targt: out\n" = .ok p ∧
    p.rules = [Recipe.default] ∧ ¬AllDeclared (Document.ofText "rules:\n- targt: out\n").references
      (Document.ofText "rules:\n- targt: out\n").node := by
  have hrules : (ofFileText "c.yml" "rules:\n- targt: out\n").toOption.map (·.rules) = some [Recipe.default] := by
    decide +kernel
  cases hp : ofFileText "c.yml" "rules:\n- targt: out\n" with
  | error e =>
    rw [hp] at hrules
    cases hrules
  | ok p =>
    rw [hp] at hrules
    have hmisspelled : "targt" ∉ Recipe.keys := by decide
    exact ⟨p, rfl, Option.some.inj hrules, not_allDeclared hmisspelled (by decide +kernel)⟩

end Parameters

end Config

end DatasetLint
