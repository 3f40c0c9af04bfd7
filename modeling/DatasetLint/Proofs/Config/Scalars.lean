import DatasetLint.Proofs.Config.Plain
import DatasetLint.Proofs.Yaml.Entry

/-!
# Scalars in a configuration

Where a document has a scalar, under whatever tag and in whatever style, its configuration has the written form of
what the scalar means.
-/

namespace DatasetLint

namespace Yaml

/-- A tag of one's own leaves the scalar `t` what it means without tag. -/
theorem Node.scalarMeaning_own {tag : Option String} (h : (Node.ownTag? tag).isSome = true) (t : String) (style : Style) :
    Node.scalarMeaning tag t style = Node.scalarMeaning none t style := by
  cases tag with
  | none => rfl
  | some name =>
    have hcore : ∀ core, name ≠ coreTag core := by
      rintro core rfl
      have hhead : "tag:yaml.org,2002:".toList = 't' :: "ag:yaml.org,2002:".toList := by decide
      have htext : (coreTag core).toList = 't' :: ("ag:yaml.org,2002:".toList ++ core.toList) :=
        String.toList_append.trans (congrArg (· ++ core.toList) hhead)
      rw [ownTag?, Option.bind_some, htext] at h
      cases h
    rw [Node.scalarMeaning.eq_def, Node.scalarMeaning.eq_def]
    simp only [if_neg (hcore _), if_pos h]

/-- A scalar is read as what it means, behind its `tag` if it is one's own. -/
theorem Reader.Reads.eq_underTag {refs : References} {x : Node} {v : Value} (h : Reader.Reads refs x v) {m : Mark}
    {anchor : Option Nat} {tag : Option String} {t : String} {style : Style}
    (hx : x.target? refs = some (.scalar m anchor tag t style)) {a : Scalar}
    (ha : Node.scalarMeaning tag t style = .ok a) :
    v = Reader.underTag tag (.scalar a) ∧ ∀ i, a = .int i → Scalar.isWordSized i = true := by
  cases h with
  | scalar hx' hmeaning hsize =>
    cases hx.symm.trans hx'
    have hsame : Node.scalarMeaning (if (Node.ownTag? tag).isSome then none else tag) t style =
        Node.scalarMeaning tag t style := by
      split
      · rename_i hown
        exact (Node.scalarMeaning_own hown t style).symm
      · rfl
    rw [hsame, ha] at hmeaning
    cases hmeaning
    exact ⟨rfl, hsize⟩
  | sequence hx' => cases hx.symm.trans hx'
  | mapping hx' => cases hx.symm.trans hx'

end Yaml

namespace Config

open Yaml

/-- `n` has the written form of a scalar at its place `p`. An integer there is not too large. -/
theorem Node.at?_of_scalar {s : String} {n : Node} (hn : Node.ofText s = .ok n) {p : List Nat} {m : Mark}
    {anchor : Option Nat} {tag : Option String} {t : String} {style : Style}
    (hat : (Document.ofText s).at? p = some (.scalar m anchor tag t style)) {a : Scalar}
    (ha : Yaml.Node.scalarMeaning tag t style = .ok a) (hnull : a ≠ .null) :
    n.at? p = some (.scalar a.text) ∧ ∀ i, a = .int i → Scalar.isWordSized i = true := by
  rw [Node.ofText_eq, Except.map_eq_ok_iff] at hn
  obtain ⟨v, hv, rfl⟩ := hn
  -- down the same way in the nodes, in the value and in the configuration
  obtain ⟨x, hx, htarget⟩ := Option.bind_eq_some_iff.1 hat
  obtain ⟨w, hw, hreads⟩ := exists_right_of_rel ((Document.reads_of_read hv).at? p) hx
  obtain ⟨rfl, hsize⟩ := hreads.eq_underTag htarget ha
  obtain ⟨_, hnode, rfl⟩ := exists_right_of_rel (Node.rel_at? v p) hw
  rw [Node.ofValue_underTag, Node.ofValue_scalar hnull] at hnode
  exact ⟨hnode, hsize⟩

/-- The configuration of the one entry `k: t`. -/
theorem Node.ofText_entryLine {k t : String} (hk : IsPlain k) (hsize : k.utf8ByteSize ≤ Writer.simpleKeyLimit)
    (hkey : Scalar.ofPlain k = .string k) (ht : IsPlain t) (hnull : Scalar.ofPlain t ≠ .null)
    (hvalue : ∀ i, Scalar.ofPlain t = .int i → Scalar.isWordSized i = true) :
    Node.ofText (entryLine k t) = .ok (.mapping [(k, .scalar (Scalar.ofPlain t).text)]) := by
  have hint : ∀ i, Scalar.ofPlain k = .int i → Scalar.isWordSized i = true := by
    intro i hi
    cases hkey.symm.trans hi
  rw [Node.ofText_eq, read_entryLine hk hsize ht hint hvalue, hkey]
  change Except.ok (Node.mapping [(k, Node.ofValue (.scalar (.ofPlain t)))]) = _
  rw [Node.ofValue_scalar hnull]

end Config

end DatasetLint
