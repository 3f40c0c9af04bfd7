import DatasetLint.Config.Parameters
import DatasetLint.Proofs.Binding.Culprit
import DatasetLint.Proofs.Binding.Meaning
import DatasetLint.Proofs.Refusal
import DatasetLint.Proofs.Yaml.Places

/-!
# The nodes that a document gives

A configuration has a node at a place where its document has a value. Its keys come from keys of the document that
are all different, but two of them can have one text: a text that looks like a number, and that number. Where no
two keys can be mistaken for each other, the first entry with a key is the last one too.
-/

namespace DatasetLint

namespace Yaml

/-! ## Equal scalars -/

private theorem Scalar.same_self (a : Scalar) : a.same a = true := by
  cases a with
  | float v =>
    rw [Scalar.same]
    cases v with
    | nan => rfl
    | infinity negative => exact beq_self_eq_true negative
    | finite negative m e => simp [Decimal.Floating.same]
  | null => rfl
  | bool b => cases b <;> rfl
  | int i => simp [Scalar.same]
  | string s => simp [Scalar.same]

private theorem Value.same_scalar_self (a : Scalar) : (Value.scalar a).same (.scalar a) = true := by
  rw [Value.same, Value.depth, Value.sameUpTo]
  exact a.same_self

end Yaml

namespace Config

open Yaml

namespace Node

/-! ## Places -/

/-- The nodes below a node. -/
def parts : Node → List Node
  | sequence xs => xs
  | mapping es => es.map (·.2)
  | _ => []

/-- The node at the place `p` below `n`. -/
def at? (n : Node) (p : List Nat) : Option Node := reach? parts n p

private theorem ofValues_eq_map (vs : List Value) : ofValues vs = vs.map ofValue := by
  induction vs with
  | nil => rfl
  | cons v vs ih => rw [ofValues, ih, List.map_cons]

theorem ofEntries_eq_map (es : List (Value × Value)) : ofEntries es = es.map fun e => (shownKey e.1, ofValue e.2) := by
  induction es with
  | nil => rfl
  | cons e es ih => rw [ofEntries, ih, List.map_cons]

/-- `ofValue` drops tags. -/
theorem ofValue_underTag (tag : Option String) (v : Value) : ofValue (Reader.underTag tag v) = ofValue v := by
  rw [Reader.underTag]
  cases Yaml.Node.ownTag? tag with
  | none => rfl
  | some _ => rfl

private theorem parts_ofValue (v : Value) : (ofValue v).parts = v.parts.map ofValue := by
  induction v using Value.untagged.induct with
  | case1 tag v ih => exact ih
  | case2 v h =>
    cases v with
    | scalar a => cases a <;> rfl
    | sequence vs =>
      rw [ofValue, ofValues_eq_map]
      rfl
    | mapping es =>
      rw [ofValue, ofEntries_eq_map, parts, Value.parts, Value.untagged, List.map_map, List.map_map]
      · rfl
      · intro tag v heq
        cases heq
    | tagged tag v => exact absurd rfl (h tag v)

/-- `ofValue v` has a node where `v` has a value, and made of that. -/
theorem rel_at? (v : Value) (p : List Nat) : Option.Rel (fun w n => n = ofValue w) (v.at? p) ((ofValue v).at? p) := by
  refine rel_reach? (R := fun w n => n = ofValue w) ?_ rfl p
  rintro w _ rfl
  rw [parts_ofValue, List.forall₂_map_right_iff]
  exact List.forall₂_same.2 fun _ _ => rfl

private theorem entries?_of_ofValue {v : Value} {es : List (String × Node)} (h : ofValue v = .mapping es) :
    ∃ ts, v.entries? = some ts ∧ es = ofEntries ts := by
  induction v using Value.untagged.induct with
  | case1 tag v ih => exact ih h
  | case2 v hv =>
    cases v with
    | scalar a => cases a <;> cases h
    | sequence vs => cases h
    | mapping ts =>
      cases h
      exact ⟨ts, rfl, rfl⟩
    | tagged tag v => exact absurd rfl (hv tag v)

/-! ## Keys -/

/-- The first scalar is a text that would be the second if it stood plain. -/
def mimics : Scalar → Scalar → Bool
  | .string t, b => !b.isText && Scalar.ofPlain t == b
  | _, _ => false

/-- Keys that can have the same text although they are different. -/
def mistakable : Value → Value → Bool
  | .scalar a, .scalar b => mimics a b || mimics b a
  | _, _ => true

/-- The `shownKey` of `a`, which is no text itself, means `a`. -/
theorem ofPlain_shownKey {a : Scalar} (h : a.IsRead) (htext : a.isText = false) :
    Scalar.ofPlain (shownKey (.scalar a)) = a := by
  cases a with
  | null => rfl
  | string t => cases htext
  | bool b => exact Scalar.ofPlain_text h htext
  | int i => exact Scalar.ofPlain_text h htext
  | float v => exact Scalar.ofPlain_text h htext

private theorem mimics_of_shownKey {t : String} {a : Scalar} (ha : a.IsRead) (htext : a.isText = false)
    (h : t = shownKey (.scalar a)) : mimics (.string t) a = true := by
  rw [mimics, h, ofPlain_shownKey ha htext, htext]
  exact beq_self_eq_true a

/-- Scalars `a` and `b` with one `shownKey` are the same, unless one is a text that looks like the other. -/
theorem eq_or_mimics {a b : Scalar} (ha : a.IsRead) (hb : b.IsRead)
    (h : shownKey (.scalar a) = shownKey (.scalar b)) : a = b ∨ (mimics a b || mimics b a) = true := by
  rw [Bool.or_eq_true]
  -- a scalar that is no text is what its key reads as, so two such with one text are equal
  rcases a.text_or_not with ⟨t, rfl⟩ | hat
  · rcases b.text_or_not with ⟨u, rfl⟩ | hbt
    · exact .inl (congrArg _ h)
    · exact .inr (.inl (mimics_of_shownKey hb hbt h))
  · rcases b.text_or_not with ⟨u, rfl⟩ | hbt
    · exact .inr (.inr (mimics_of_shownKey ha hat h.symm))
    · exact .inl (by rw [← ofPlain_shownKey ha hat, h, ofPlain_shownKey hb hbt])

/-- Different keys `k` and `l` of a document with one `shownKey` are `mistakable`. -/
theorem mistakable_of_shownKey_eq {refs : References} {x y : Yaml.Node} {k l : Value} (hk : Reader.Reads refs x k)
    (hl : Reader.Reads refs y l) (hdifferent : k.same l = false) (h : shownKey k = shownKey l) :
    mistakable k l = true := by
  cases k with
  | scalar a =>
    cases l with
    | scalar b =>
      rcases eq_or_mimics hk.isRead hl.isRead h with rfl | hmimics
      · cases (Value.same_scalar_self a).symm.trans hdifferent
      · exact hmimics
    | sequence vs => rfl
    | mapping es => rfl
    | tagged tag v => rfl
  | sequence vs => rfl
  | mapping es => rfl
  | tagged tag v => rfl

private theorem get?_eq_lastValue? {es : List (String × Node)} (h : (es.map (·.1)).Nodup) (k : String) :
    (mapping es).get? k = Binding.lastValue? es k := by
  rw [get?, Binding.lastValue?]
  cases hlast : es.reverse.lookup k with
  | none =>
    rw [List.lookup_eq_none_iff] at hlast ⊢
    exact fun e he => hlast e (List.mem_reverse.2 he)
  | some y =>
    obtain ⟨before, after, hes, -⟩ := List.lookup_eq_some_iff.1 hlast
    have hmem : (k, y) ∈ es.reverse := hes ▸ List.mem_append_right before (List.mem_cons_self ..)
    exact Binding.lookup_of_mem_nodup h (List.mem_reverse.1 hmem)

/-- How the mappings of the configuration `n` come from those of the value `v`. The keys of one are different, and
two of them that have one text are `mistakable`; where no two are, the first entry with a key is the last one. -/
def KeysFrom (n : Node) (v : Value) : Prop :=
  ∀ p es, n.at? p = some (.mapping es) → ∃ ts, (v.at? p).bind Value.entries? = some ts ∧ es = ofEntries ts ∧
    (ts.Pairwise fun a b => a.1.same b.1 = false ∧ (shownKey a.1 = shownKey b.1 → mistakable a.1 b.1 = true)) ∧
    ((ts.Pairwise fun a b => mistakable a.1 b.1 = false) →
      (es.map (·.1)).Nodup ∧ ∀ k, (mapping es).get? k = Binding.lastValue? es k)

private theorem keysFrom_of_reads {refs : References} {x : Yaml.Node} {v : Value} (h : Reader.Reads refs x v) :
    KeysFrom (ofValue v) v := by
  intro p es hat
  obtain ⟨w, hw, hmapping⟩ := exists_left_of_rel (rel_at? v p) hat
  obtain ⟨y, -, hy⟩ := exists_left_of_rel (h.at? p) hw
  obtain ⟨ts, hts, rfl⟩ := entries?_of_ofValue hmapping.symm
  -- the check for duplicates was on values; what is left is to compare their texts
  obtain ⟨hkeys, hdifferent⟩ := hy.keys hts
  have hshown : ts.Pairwise fun a b =>
      a.1.same b.1 = false ∧ (shownKey a.1 = shownKey b.1 → mistakable a.1 b.1 = true) := by
    refine hdifferent.imp_of_mem fun {a b} ha hb hab => ⟨hab, fun heq => ?_⟩
    obtain ⟨xa, hxa⟩ := hkeys a ha
    obtain ⟨xb, hxb⟩ := hkeys b hb
    exact mistakable_of_shownKey_eq hxa hxb hab heq
  refine ⟨ts, by rw [hw]; exact hts, rfl, hshown, fun hclear => ?_⟩
  have hnodup : ((ofEntries ts).map (·.1)).Nodup := by
    rw [ofEntries_eq_map, List.map_map, List.Nodup, List.pairwise_map]
    refine (hshown.and hclear).imp fun hab heq => ?_
    cases (hab.1.2 heq).symm.trans hab.2
  exact ⟨hnodup, get?_eq_lastValue? hnodup⟩

end Node

namespace Parameters

variable {refs : References}

/-- Some node of a document gives `n`. -/
def IsGiven (refs : References) (n : Node) : Prop := ∃ x v, Reader.Reads refs x v ∧ n = Node.ofValue v

/-- The node `x` of a document gives `n`. -/
def IsFrom (refs : References) (x : Yaml.Node) (n : Node) : Prop := ∃ v, Reader.Reads refs x v ∧ n = Node.ofValue v

/-- The field `f` is known by plain text, and it changes the settings exactly if it has their name. -/
structure IsField (refs : References) (f : Reader.Field Parameters) : Prop where
  plain : Scalar.ofPlain f.name = .string f.name
  settings : f.name = "validation" → ∀ p d path x,
    Read.Yields refs (f.assign p d path x) fun q => IsFrom refs x q.validation
  other : f.name ≠ "validation" → ∀ p d path x,
    Read.Yields refs (f.assign p d path x) fun q => q.validation = p.validation

private theorem isField_other {α : Type} (name : String) (r : Reader α) {set : α → Parameters → Parameters}
    (hplain : Scalar.ofPlain name = .string name) (hname : name ≠ "validation")
    (hset : ∀ a p, (set a p).validation = p.validation) : IsField refs (.ofReader name false r set) where
  plain := hplain
  settings := fun h => absurd h hname
  other := fun _ p _ _ _ => (Read.yields_true _).map fun a _ => hset a p

private theorem isField_settings :
    IsField refs (.ofReader "validation" false Node.reader fun a p => { p with validation := a }) where
  plain := rfl
  settings := by
    intro _ p d path x
    have hnode : Read.Yields refs (Node.reader d path x) (IsFrom refs x) :=
      (Reader.yields_value d path x).map fun v hv => ⟨v, hv, rfl⟩
    exact hnode.map fun _ hn => hn
  other := fun h => absurd rfl h

/-- The keys that `Parameters` can have. -/
def keys : List String := ["baseUri", "targetDir", "outputDir", "originDir", "suppressPath", "rules", "validation"]

/-- `reader` reads a record of fields with `IsField`, one for each of the `keys`. -/
theorem reader_eq_record (refs : References) : ∃ known, reader = Reader.record "LintParameters" true known default ∧
    known.map (·.name) = keys ∧ ∀ f ∈ known, IsField refs f := by
  refine ⟨_, rfl, rfl, fun f hf => ?_⟩
  simp only [List.mem_cons, List.not_mem_nil, or_false] at hf
  rcases hf with rfl | rfl | rfl | rfl | rfl | rfl | rfl
  · exact isField_other _ _ rfl (by decide) fun _ _ => rfl
  · exact isField_other _ _ rfl (by decide) fun _ _ => rfl
  · exact isField_other _ _ rfl (by decide) fun _ _ => rfl
  · exact isField_other _ _ rfl (by decide) fun _ _ => rfl
  · exact isField_other _ _ rfl (by decide) fun _ _ => rfl
  · exact isField_other _ _ rfl (by decide) fun _ _ => rfl
  · exact isField_settings

/-- The settings that `reader` yields are a node of the document. -/
theorem yields_validation (d : Nat) (path : Path) (x : Yaml.Node) :
    Read.Yields refs (reader d path x) fun q => IsGiven refs q.validation := by
  have hempty : IsGiven refs default.validation := ⟨_, _, Reader.reads_empty .start, rfl⟩
  obtain ⟨known, hreader, -, hfields⟩ := reader_eq_record refs
  rw [hreader]
  refine Reader.yields_record (I := fun q : Parameters => IsGiven refs q.validation) hempty ?_ _ _ d path x
  intro f hf p hp d path x
  by_cases hname : f.name = "validation"
  · refine ((hfields f hf).settings hname p d path x).mono ?_
    rintro q ⟨v, hv, hq⟩
    exact ⟨x, v, hv, hq⟩
  · refine ((hfields f hf).other hname p d path x).mono fun q hq => ?_
    rw [hq]
    exact hp

/-- Parameters in `s` are the default ones, or they are read and their settings are by name. -/
theorem ofText_eq_ok {s : String} {p : Parameters} (h : ofText s = .ok p) :
    (Text.trim s.toList).isEmpty = true ∧ p = default ∨
      readText reader s = .ok p ∧ (p.validation = .null ∨ ∃ es, p.validation = .mapping es) := by
  rw [ofText] at h
  split at h
  · rename_i hblank
    cases h
    exact .inl ⟨hblank, rfl⟩
  · split at h
    · cases h
    · rename_i q hq
      split at h
      · rename_i es hes
        cases h
        exact .inr ⟨hq, .inr ⟨es, hes⟩⟩
      · rename_i hnull
        cases h
        exact .inr ⟨hq, .inl hnull⟩
      · cases h

private theorem isGiven_of_ofText {s : String} {q : Parameters} (h : ofText s = .ok q) :
    IsGiven (Document.ofText s).references q.validation := by
  rcases ofText_eq_ok h with ⟨-, rfl⟩ | ⟨hread, -⟩
  · exact ⟨_, _, Reader.reads_empty .start, rfl⟩
  · obtain ⟨n, hn⟩ := Document.read_eq_ok hread
    exact yields_validation depthLimit .root _ 0 q n hn

end Parameters

theorem Node.ofText_eq (s : String) : Node.ofText s = (readText Reader.value s).map Node.ofValue :=
  Document.read_map Reader.value Node.ofValue _

private theorem eq_mapping_of_scalars {es : List (String × Node)} {ts : List (String × String)}
    (h : (es.map fun e => (e.1, e.2.scalar?)) = ts.map fun t => (t.1, some t.2)) :
    es = ts.map fun t => (t.1, .scalar t.2) := by
  induction ts generalizing es with
  | nil => exact List.map_eq_nil_iff.1 h
  | cons t ts ih =>
    obtain ⟨⟨k, n⟩, es, rfl, hhead, htail⟩ := List.map_eq_cons_iff.1 h
    cases n with
    | scalar u =>
      cases hhead
      rw [List.map_cons, ih htail]
    | null => cases hhead
    | mapping es => cases hhead
    | sequence xs => cases hhead

/-- A mapping `n` of scalars, by what its keys and scalars are. -/
theorem Node.eq_mapping_of_scalars {n : Node} (ts : List (String × String))
    (h : n.entries?.map (·.map fun e => (e.1, e.2.scalar?)) = some (ts.map fun t => (t.1, some t.2))) :
    n = .mapping (ts.map fun t => (t.1, .scalar t.2)) := by
  cases n with
  | mapping es => rw [Config.eq_mapping_of_scalars (Option.some.inj h)]
  | null => cases h
  | scalar t => cases h
  | sequence xs => cases h

/-- A text `s` that gives a mapping of scalars, by what its keys and scalars are. -/
theorem Node.ofText_eq_mapping {s : String} (ts : List (String × String))
    (h : ((Node.ofText s).toOption.bind Node.entries?).map (·.map fun e => (e.1, e.2.scalar?)) =
      some (ts.map fun t => (t.1, some t.2))) :
    Node.ofText s = .ok (.mapping (ts.map fun t => (t.1, .scalar t.2))) := by
  cases hn : Node.ofText s with
  | error e =>
    rw [hn] at h
    cases h
  | ok n =>
    rw [hn] at h
    rw [Node.eq_mapping_of_scalars ts h]

/-- The keys of the mappings that `s` gives, as a configuration `n` or as the settings of the parameters `q`, come
from different keys, `KeysFrom`. -/
theorem keysFrom_document (s : String) :
    (∀ n, Node.ofText s = .ok n → ∃ v, readText Reader.value s = .ok v ∧ n.KeysFrom v) ∧
      ∀ q, Parameters.ofText s = .ok q →
        ∃ x v, Reader.Reads (Document.ofText s).references x v ∧ q.validation.KeysFrom v := by
  refine ⟨fun n hn => ?_, fun q hq => ?_⟩
  · rw [Node.ofText_eq, Except.map_eq_ok_iff] at hn
    obtain ⟨v, hv, rfl⟩ := hn
    exact ⟨v, hv, Node.keysFrom_of_reads (Document.reads_of_read hv)⟩
  · obtain ⟨x, v, hreads, hvalue⟩ := Parameters.isGiven_of_ofText hq
    rw [hvalue]
    exact ⟨x, v, hreads, Node.keysFrom_of_reads hreads⟩

/-- Keys of four kinds, no two of which look like each other. -/
theorem keysFrom_document_mixed : ∃ es, Node.ofText "name: a\n1: b\ntrue: c\n~: d\n" = .ok (.mapping es) ∧
    es.map (·.1) = ["name", "1", "true", "~"] ∧ ∀ k, (Node.mapping es).get? k = Binding.lastValue? es k := by
  have hn := Node.ofText_eq_mapping (s := "name: a\n1: b\ntrue: c\n~: d\n")
    [("name", "a"), ("1", "b"), ("true", "c"), ("~", "d")] (by decide +kernel)
  have hclear : ((readText Reader.value "name: a\n1: b\ntrue: c\n~: d\n").toOption.bind Value.entries?).any
      (fun ts => decide (ts.Pairwise fun a b => Node.mistakable a.1 b.1 = false)) = true := by decide +kernel
  obtain ⟨v, hv, hkeys⟩ := (keysFrom_document _).1 _ hn
  obtain ⟨ts, hts, -, -, hlast⟩ := hkeys [] _ rfl
  have hentries : v.entries? = some ts := hts
  rw [hv] at hclear
  change v.entries?.any _ = true at hclear
  rw [hentries, Option.any_some, decide_eq_true_eq] at hclear
  exact ⟨_, hn, rfl, (hlast hclear).2⟩

/-- `s` gives a mapping in which two keys have one text and different values. -/
def Clashes (s : String) : Prop :=
  ∃ n es, Node.ofText s = .ok n ∧ n.at? [] = some (.mapping es) ∧ ¬(es.map (·.1)).Nodup ∧
    ∃ k a b, (Node.mapping es).get? k = some (.scalar a) ∧ Binding.lastValue? es k = some (.scalar b) ∧ a ≠ b

private theorem clashes_of_ofText {s k : String}
    (h : Node.ofText s = .ok (.mapping [(k, .scalar "a"), (k, .scalar "b")])) :
    Clashes s :=
  ⟨_, _, h, rfl, by simp, k, "a", "b", by simp [Node.get?], by simp [Binding.lastValue?], by decide⟩

/-- A number and a text, a tagged text and a plain one, and two collections as keys with one text. -/
theorem keysFrom_document_oneText : Clashes "1: a\n\"1\": b\n" ∧ Clashes "!x k: a\n\"!x k\": b\n" ∧
    Clashes "? [\"k\\n\\n\"]\n: a\n? [\"k\\n\\n\\n\"]\n: b\n" := by
  refine ⟨clashes_of_ofText (k := "1") ?_, clashes_of_ofText (k := "!x k") ?_, clashes_of_ofText (k := "- |+\n  k") ?_⟩
  · exact Node.ofText_eq_mapping [("1", "a"), ("1", "b")] (by decide +kernel)
  · exact Node.ofText_eq_mapping [("!x k", "a"), ("!x k", "b")] (by decide +kernel)
  · exact Node.ofText_eq_mapping [("- |+\n  k", "a"), ("- |+\n  k", "b")] (by decide +kernel)

end Config

end DatasetLint
