import DatasetLint.Proofs.Config.Nodes
import DatasetLint.Proofs.Yaml.Blank
import DatasetLint.Proofs.Yaml.Fields

/-!
# The settings of the checks

The settings are read on the way to the parameters, and they stand in the whole configuration too, under the key of
their field. The parameters tell their keys by texts, the configuration by values; where no key has a tag, the text of
a key that is known is its value.
-/

namespace DatasetLint.Config

open Yaml Yaml.Reader

variable {refs : References}

/-! ## Keys without tags -/

/-- A key without tag whose text `t` is no word of another kind has `t` for its `shownKey`. -/
theorem shownKey_of_isKey {k : Yaml.Node} {t : String} {w : Value} (htag : ∀ y, k.target? refs = some y → y.tag? = none)
    (ht : Scalar.ofPlain t = .string t) (hk : IsKey refs k t) (hw : Reads refs k w) : Node.shownKey w = t := by
  obtain ⟨m, anchor, tag, style, hx⟩ := hk
  have hnone : tag = none := htag _ hx
  subst hnone
  cases hw with
  | scalar hx' ha =>
    cases hx.symm.trans hx'
    rw [ite_self, Yaml.Node.scalarMeaning, ht, ite_self] at ha
    cases ha
    rfl
  | sequence hx' => cases hx.symm.trans hx'
  | mapping hx' => cases hx.symm.trans hx'

/-! ## One section of a configuration -/

namespace Node

/-- What the field `name` settles is the section with this name. -/
theorem eq_lookup_of_settles {name : String} {ns : List (Yaml.Node × Yaml.Node)} {b : Node}
    (h : Settles refs name (Parameters.IsFrom refs) .null ns b)
    (hkeys : ∀ e ∈ ns, ∃ t, IsKey refs e.1 t ∧ ∀ w, Reads refs e.1 w → shownKey w = t) {es : List (Value × Value)}
    (hes : List.Forall₂ (Reads refs) (ns.map (·.1)) (es.map (·.1)))
    (hvs : List.Forall₂ (Reads refs) (ns.map (·.2)) (es.map (·.2))) :
    b = ((mapping (ofEntries es)).get? name).getD .null := by
  rw [ofEntries_eq_map, get?]
  -- the entries of the value go along with those of the node, one for one
  induction h generalizing es with
  | nil =>
    cases es with
    | nil => rfl
    | cons e es => cases hes
  | here hk hx =>
    cases es with
    | nil => cases hes
    | cons e es =>
      obtain ⟨w, hw, rfl⟩ := hx
      obtain ⟨⟨t, ht, hshown⟩, -⟩ := List.forall_mem_cons.1 hkeys
      have hkey : shownKey e.1 = name := (hshown _ (List.forall₂_cons.1 hes).1).trans (ht.unique hk)
      rw [List.map_cons, List.lookup_cons, hkey, beq_self_eq_true]
      exact congrArg ofValue (hw.unique (List.forall₂_cons.1 hvs).1)
  | skip hk _ ih =>
    cases es with
    | nil => cases hes
    | cons e es =>
      obtain ⟨⟨t, ht, hshown⟩, hrest⟩ := List.forall_mem_cons.1 hkeys
      have hkey : (name == shownKey e.1) = false := by
        rw [hshown _ (List.forall₂_cons.1 hes).1, beq_eq_false_iff_ne]
        rintro rfl
        exact hk ht
      rw [List.map_cons, List.lookup_cons, hkey]
      exact ih hrest (List.forall₂_cons.1 hes).2 (List.forall₂_cons.1 hvs).2

/-- A scalar has no sections. -/
theorem get?_of_scalar {x : Yaml.Node} {v : Value} (hv : Reads refs x v) {m : Mark} {anchor : Option Nat}
    {tag : Option String} {t : String} {style : Style} (hx : x.target? refs = some (.scalar m anchor tag t style))
    (name : String) : (ofValue v).get? name = none := by
  cases hv with
  | @scalar _ _ _ _ _ _ a hx' =>
    rw [underTag]
    cases Yaml.Node.ownTag? _ with
    | none => cases a <;> rfl
    | some _ => cases a <;> rfl
  | sequence hx' => cases hx.symm.trans hx'
  | mapping hx' => cases hx.symm.trans hx'

theorem exists_scalar_of_isOmitted {x : Yaml.Node} (h : x.isOmitted = true) :
    ∃ m anchor tag t style, x = .scalar m anchor tag t style := by
  cases x with
  | scalar m anchor tag t style => exact ⟨m, anchor, tag, t, style, rfl⟩
  | sequence => cases h
  | mapping => cases h
  | reference => cases h
  | broken => cases h

end Node

namespace Parameters

/-- `validation` is what the field for it settles, and every key is plain text. -/
theorem yields_settles (d : Nat) (path : Path) (x : Yaml.Node) : Read.Yields refs (reader d path x) fun p =>
    ∃ y, x.target? refs = some y ∧
      ((∃ m anchor tag es, y = .mapping m anchor tag es ∧
        (∀ e ∈ es, ∃ t, IsKey refs e.1 t ∧ Scalar.ofPlain t = .string t) ∧
          Settles refs "validation" (IsFrom refs) .null es p.validation) ∨
        (y.isOmitted = true ∧ p.validation = .null)) := by
  obtain ⟨known, hreader, hnames, hfields⟩ := reader_eq_record refs
  have hfield : ∃ f ∈ known, f.name = "validation" := List.mem_map.1 (hnames ▸ by decide)
  rw [hreader]
  have hfills : ∀ f ∈ known, Fills refs validation "validation" (IsFrom refs) f := fun f hf =>
    ⟨(hfields f hf).settings, (hfields f hf).other⟩
  refine (yields_record_settles hfield hfills _ _ d path x).mono ?_
  rintro p ⟨y, hy, ⟨m, anchor, tag, es, rfl, hknown, hsettles⟩ | homitted⟩
  · refine ⟨_, hy, .inl ⟨m, anchor, tag, es, rfl, fun e he => ?_, hsettles⟩⟩
    obtain ⟨t, hkey, hdeclared⟩ := hknown e he
    obtain ⟨f, hf, rfl⟩ := hdeclared rfl
    exact ⟨f.name, hkey, (hfields f hf).plain⟩
  · exact ⟨y, hy, .inr homitted⟩

/-- Without tags, `validation` is the section of that name in the whole configuration. -/
theorem validation_of_read {doc : Document} (htagless : ∀ x ∈ doc.root, x.IsTagless) {p : Parameters} {v : Value}
    (hp : doc.read reader = .ok p) (hv : doc.read Reader.value = .ok v) :
    p.validation = ((Node.ofValue v).get? "validation").getD .null := by
  have hnode : doc.node.IsTagless := by
    rw [Document.node]
    cases hroot : doc.root with
    | none => exact Yaml.Node.isTagless_scalar "" .plain
    | some x => exact htagless x hroot
  have hreads := Document.reads_of_read hv
  obtain ⟨n, hn⟩ := Document.read_eq_ok hp
  obtain ⟨y, hy, ⟨m, anchor, tag, ns, rfl, hplain, hsettles⟩ | ⟨homitted, hnull⟩⟩ := yields_settles _ _ _ _ _ _ hn
  · have hwalk : ∀ e ∈ ns, e.1 ∈ doc.node.walk := by
      rw [← Yaml.Node.eq_of_target? hy]
      intro e he
      exact List.mem_cons_of_mem _ (Yaml.Node.mem_walkEntries.2 ⟨e, he, .inl (Yaml.Node.mem_walk_self e.1)⟩)
    have hkeys : ∀ e ∈ ns, ∃ t, IsKey doc.references e.1 t ∧
        ∀ w, Reads doc.references e.1 w → Node.shownKey w = t := by
      intro e he
      obtain ⟨t, hkey, ht⟩ := hplain e he
      exact ⟨t, hkey, fun w => shownKey_of_isKey (fun y => Yaml.Node.tag?_of_target? hnode (hwalk e he)) ht hkey⟩
    -- both ways see the same mapping, and a tag on it does not change what is below
    cases hreads with
    | scalar hx => cases hy.symm.trans hx
    | sequence hx => cases hy.symm.trans hx
    | mapping hx hes hvs =>
      cases hy.symm.trans hx
      rw [Node.ofValue_underTag]
      exact Node.eq_lookup_of_settles hsettles hkeys hes hvs
  · obtain ⟨m, anchor, tag, t, style, rfl⟩ := Node.exists_scalar_of_isOmitted homitted
    rw [Node.get?_of_scalar hreads hy, hnull]
    rfl

/-- The document of a blank text `s` is a scalar, if it is anything. -/
theorem node_of_isBlank {s : String} (h : (Text.trim s.toList).isEmpty = true) :
    (Document.ofText s).node = .broken ∨ ∃ m t style, (Document.ofText s).node = .scalar m none none t style := by
  have hbare := TokenStream.isBare_ofText (Text.isBlank_of_trim_eq_nil (List.isEmpty_iff.1 h))
  rw [Document.node]
  cases hroot : (Document.ofText s).root with
  | none => exact .inr ⟨.start, "", .plain, rfl⟩
  | some x => exact Document.root_of_isBare hbare x hroot

private theorem get?_of_isBlank {s : String} (h : (Text.trim s.toList).isEmpty = true) {v : Value}
    (hv : readText Reader.value s = .ok v) (name : String) : (Node.ofValue v).get? name = none := by
  have hreads := Document.reads_of_read hv
  generalize (Document.ofText s).references = refs at hreads
  rcases node_of_isBlank h with hnode | ⟨m, t, style, hnode⟩
  · rw [hnode] at hreads
    cases hreads with
    | scalar hx => cases hx
    | sequence hx => cases hx
    | mapping hx => cases hx
  · rw [hnode] at hreads
    exact Node.get?_of_scalar hreads rfl name

/-- Without tags, `validation` is the section of that name in the configuration `n`. -/
theorem validation_of_tagless {s : String} {p : Parameters} {n : Node} (htagless : Tagless (TokenStream.ofText s).tokens)
    (hp : ofText s = .ok p) (hn : Node.ofText s = .ok n) : p.validation = (n.get? "validation").getD .null := by
  rw [Node.ofText_eq, Except.map_eq_ok_iff] at hn
  obtain ⟨v, hv, rfl⟩ := hn
  rcases ofText_eq_ok hp with ⟨hblank, rfl⟩ | ⟨hread, -⟩
  · rw [get?_of_isBlank hblank hv]
    rfl
  · exact validation_of_read (Document.isTagless_ofTokens htagless) hread hv

private theorem validation_null_or_mapping {s : String} {p : Parameters} (hp : ofText s = .ok p) :
    p.validation = .null ∨ ∃ es, p.validation = .mapping es := by
  rcases ofText_eq_ok hp with ⟨-, rfl⟩ | ⟨-, hsettings⟩
  · exact .inl rfl
  · exact hsettings

/-- If `s` has no tags, the `validation` of its parameters `p` is the section of that name in the configuration `n`
that `s` gives; and with or without tags it is a mapping or nothing. -/
theorem validation_of_ofText :
    (∀ s p n, Tagless (TokenStream.ofText s).tokens → ofText s = .ok p → Node.ofText s = .ok n →
      p.validation = (n.get? "validation").getD .null) ∧
    ∀ s p, ofText s = .ok p → p.validation = .null ∨ ∃ es, p.validation = .mapping es :=
  ⟨fun _ _ _ => validation_of_tagless, fun _ _ => validation_null_or_mapping⟩

/-- Settings that refer to a text anchored in front of them, and that have a text which looks like a number. -/
theorem validation_of_ofText_alias :
    ∃ p n, ofText "rules:\n- target: &t out\nvalidation:\n  size: 01\n  path: *t\n" = .ok p ∧
      Node.ofText "rules:\n- target: &t out\nvalidation:\n  size: 01\n  path: *t\n" = .ok n ∧
      p.validation = .mapping [("size", .scalar "01"), ("path", .scalar "out")] ∧
      p.validation = (n.get? "validation").getD .null ∧
      (p.validation = .null ∨ ∃ es, p.validation = .mapping es) := by
  generalize hs : "rules:\n- target: &t out\nvalidation:\n  size: 01\n  path: *t\n" = s
  have htagless : Tagless (TokenStream.ofText s).tokens := by
    rw [← hs]
    decide +kernel
  have hscalars : ((ofText s).toOption.bind (·.validation.entries?)).map (·.map fun e => (e.1, e.2.scalar?)) =
      some [("size", some "01"), ("path", some "out")] := by
    rw [← hs]
    decide +kernel
  have hnode : (Node.ofText s).toOption.isSome = true := by
    rw [← hs]
    decide +kernel
  cases hp : ofText s with
  | error e =>
    rw [hp] at hscalars
    cases hscalars
  | ok p =>
    cases hn : Node.ofText s with
    | error e =>
      rw [hn] at hnode
      cases hnode
    | ok n =>
      rw [hp] at hscalars
      have hmapping := Node.eq_mapping_of_scalars [("size", "01"), ("path", "out")] hscalars
      exact ⟨p, n, rfl, rfl, hmapping, validation_of_ofText.1 s p n htagless hp hn, validation_of_ofText.2 s p hp⟩

end Parameters

end DatasetLint.Config
