import DatasetLint.Proofs.Binding.Fields

/-!
# Fields of one scalar

An entry whose field takes a scalar either changes the record as its field says and lets binding go on, or ends
binding with the record as it was.
-/

namespace DatasetLint.Binding

open Config

variable {σ α : Type}

/-- A field of the scalar type `t`, which an empty node may leave out or not, and how a value of the type changes
the record. -/
inductive Takes (t : ScalarType α) : Field σ → (α → σ → σ) → Prop
  | always (set : α → σ → σ) : Takes t ⟨.scalar t, set⟩ set
  | optional (set : Option α → σ → σ) : Takes t ⟨.scalar t.optional, set⟩ fun a => set (some a)

namespace Fields

/-- An entry of `k` and `text` makes `update s` of every record `s`, and the entries behind it are bound onto that.
-/
def Stores (fs : Fields σ) (k text : String) (update : σ → σ) : Prop :=
  ∀ path s es, bindEntries fs.assign path s ((k, .scalar text) :: es) = bindEntries fs.assign path (update s) es

/-- At an entry of `k` and `text` binding ends, because the text cannot be read. The record is left as it was. -/
def Refuses (fs : Fields σ) (k text : String) : Prop :=
  ∃ expected reason, ∀ path s es, bindEntries fs.assign path s ((k, .scalar text) :: es) =
    ⟨s, some ⟨path ++ [.key k], .unreadable text expected reason⟩⟩

variable {fs : Fields σ} {k text : String} {t : ScalarType α} {f : Field σ} {store : α → σ → σ}

private theorem assign_of_takes (hf : fs.find? k = some f) (ht : Takes t f store) (path : NodePath) (s : σ) :
    fs.assign k path (.scalar text) s = match t.read text with
      | .ok a => .ok (store a s)
      | .error reason => .error ⟨path, .unreadable text t.expected reason⟩ := by
  rw [assign_eq, hf]
  cases ht with
  | always set =>
    change ((t.read text).mapError _).map _ = _
    cases t.read text <;> rfl
  | optional set =>
    change (((t.read text).map some).mapError _).map _ = _
    cases t.read text <;> rfl

theorem stores_of_read (hf : fs.find? k = some f) (ht : Takes t f store) {a : α} (h : t.read text = .ok a) :
    fs.Stores k text (store a) := by
  intro path s es
  rw [bindEntries, assign_of_takes hf ht, h]

theorem refuses_of_read (hf : fs.find? k = some f) (ht : Takes t f store) {reason : String}
    (h : t.read text = .error reason) : fs.Refuses k text := by
  refine ⟨t.expected, reason, fun path s es => ?_⟩
  rw [bindEntries, assign_of_takes hf ht, h]

end Fields

end DatasetLint.Binding
