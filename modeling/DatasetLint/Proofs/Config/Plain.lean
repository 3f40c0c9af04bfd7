import DatasetLint.Proofs.Config.Nodes

/-!
# Plain scalars in a configuration

A plain scalar without tag becomes the written form of what it means, so that a field which takes texts gets that
form, while a parameter that is read as a text gets the characters of the document. Both are the same for texts,
and for scalars that are in written form.
-/

namespace DatasetLint

namespace Yaml

/-- A parameter that is read as a text takes the plain scalar `t` as it stands. -/
theorem Reader.option_text_plain {t : String} (h : Scalar.ofPlain t ≠ .null) (expected : String) (d : Nat) (path : Path)
    (m : Mark) (anchor : Option Nat) (refs : References) (n : Nat) :
    Reader.option (Reader.text expected) d path (.scalar m anchor none t .plain) refs n = .ok (some t, n) := by
  rw [ne_eq, Scalar.ofPlain_eq_null_iff] at h
  have hnull : Reader.isNull (.scalar m anchor none t .plain) = pure false := by
    rw [Reader.isNull, if_neg nofun, Option.isNone_none, Bool.true_and, Bool.eq_false_iff.2 h]
  change (Reader.isNull (.scalar m anchor none t .plain) >>= fun b =>
    if b then pure none else some <$> Reader.text expected d path (.scalar m anchor none t .plain)) refs n = _
  rw [hnull]
  rfl

end Yaml

namespace Config

open Yaml

theorem Node.ofValue_scalar {a : Scalar} (h : a ≠ .null) : Node.ofValue (.scalar a) = .scalar a.text := by
  cases a with
  | null => exact absurd rfl h
  | bool b => rfl
  | int i => rfl
  | float v => rfl
  | string t => rfl

/-- Where a document has a plain scalar `t` without tag that is no null, its configuration has the written form `u`
of what it means, and a field of texts gets `u`. A parameter of texts gets `t` as it stands. Both are the same just
if `t` is a text, or the written form of some other scalar `a`. -/
theorem plain_of_document {s : String} {n : Node} (hn : Node.ofText s = .ok n) {p : List Nat} {m : Mark}
    {anchor : Option Nat} {t : String} (hat : (Document.ofText s).at? p = some (.scalar m anchor none t .plain))
    (hnull : Scalar.ofPlain t ≠ .null) : ∃ u, n.at? p = some (.scalar u) ∧
      (∀ path, Binding.ScalarType.text.bind path (.scalar u) = .ok u) ∧
      (∀ expected d path refs k, Reader.option (Reader.text expected) d path (.scalar m anchor none t .plain) refs k =
        .ok (some t, k)) ∧
      u = (Scalar.ofPlain t).text ∧ Scalar.ofPlain u = Scalar.ofPlain t ∧
      (u = t ↔ (Scalar.ofPlain t).isText = true ∨ ∃ a : Scalar, a.IsRead ∧ a.isText = false ∧ a.text = t) := by
  rw [Node.ofText_eq, Except.map_eq_ok_iff] at hn
  obtain ⟨v, hv, rfl⟩ := hn
  -- down the same way in the nodes, in the value and in the configuration
  obtain ⟨x, hx, htarget⟩ := Option.bind_eq_some_iff.1 hat
  obtain ⟨w, hw, hreads⟩ := exists_right_of_rel ((Document.reads_of_read hv).at? p) hx
  obtain ⟨rfl, hread⟩ := hreads.plain htarget
  obtain ⟨_, hnode, rfl⟩ := exists_right_of_rel (Node.rel_at? v p) hw
  rw [Node.ofValue_scalar hnull] at hnode
  exact ⟨_, hnode, fun _ => rfl, fun e d path refs k => Reader.option_text_plain hnull e d path m anchor refs k, rfl,
    Scalar.ofPlain_text_ofPlain hread, Scalar.text_ofPlain_eq_iff hread⟩

/-- The text of a plain scalar without tag. -/
def plainText? : Yaml.Node → Option String
  | .scalar _ _ none t .plain => some t
  | _ => none

private theorem exists_plain {s : String} {p : List Nat} {t : String}
    (h : ((Document.ofText s).at? p).bind plainText? = some t) :
    ∃ m anchor, (Document.ofText s).at? p = some (.scalar m anchor none t .plain) := by
  obtain ⟨x, hx, htext⟩ := Option.bind_eq_some_iff.1 h
  rw [hx]
  unfold plainText? at htext
  split at htext
  · cases htext
    exact ⟨_, _, rfl⟩
  · cases htext

/-- The zero at the end of `1.10` gets lost. -/
theorem plain_of_document_trailingZero : ∃ u, Node.ofText "name: 1.10\n" = .ok (.mapping [("name", .scalar u)]) ∧
    u = (Scalar.ofPlain "1.10").text ∧ u ≠ "1.10" := by
  have hn := Node.ofText_eq_mapping (s := "name: 1.10\n") [("name", "1.1")] (by decide +kernel)
  have hplain : ((Document.ofText "name: 1.10\n").at? [0]).bind plainText? = some "1.10" := by decide +kernel
  obtain ⟨m, anchor, hat⟩ := exists_plain hplain
  obtain ⟨u, hu, -, -, hform, -, -⟩ := plain_of_document hn hat (by decide +kernel)
  cases hu
  exact ⟨_, hn, hform, by decide⟩

/-- A document has a plain scalar for `name`, and its configuration has another text there. -/
def Changes (t u : String) : Prop :=
  ∃ m anchor, (Document.ofText ("name: " ++ t ++ "\n")).at? [0] = some (.scalar m anchor none t .plain) ∧
    Scalar.ofPlain t ≠ .null ∧ Node.ofText ("name: " ++ t ++ "\n") = .ok (.mapping [("name", .scalar u)]) ∧ u ≠ t

private theorem changes_of_plainText? {t u : String}
    (hplain : ((Document.ofText ("name: " ++ t ++ "\n")).at? [0]).bind plainText? = some t)
    (hnull : Scalar.ofPlain t ≠ .null)
    (hnode : ((Node.ofText ("name: " ++ t ++ "\n")).toOption.bind Node.entries?).map
      (·.map fun e => (e.1, e.2.scalar?)) = some [("name", some u)]) (hne : u ≠ t) : Changes t u := by
  obtain ⟨m, anchor, hat⟩ := exists_plain hplain
  exact ⟨m, anchor, hat, hnull, Node.ofText_eq_mapping [("name", u)] hnode, hne⟩

/-- A float, two integers and a boolean of which the configuration has another text. -/
theorem plain_of_document_ne :
    Changes "1.10" "1.1" ∧ Changes "0x1F" "31" ∧ Changes "+7" "7" ∧ Changes "True" "true" := by
  refine ⟨?_, ?_, ?_, ?_⟩
  · exact changes_of_plainText? (by decide +kernel) (by decide +kernel) (by decide +kernel) (by decide)
  · exact changes_of_plainText? (by decide +kernel) (by decide +kernel) (by decide +kernel) (by decide)
  · exact changes_of_plainText? (by decide +kernel) (by decide +kernel) (by decide +kernel) (by decide)
  · exact changes_of_plainText? (by decide +kernel) (by decide +kernel) (by decide +kernel) (by decide)

end Config

end DatasetLint
