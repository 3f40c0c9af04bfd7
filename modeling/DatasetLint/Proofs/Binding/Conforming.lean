import DatasetLint.Proofs.Binding.Faults

/-!
# Sections that conform

When a section conforms to a record: it is empty, or a mapping of declared keys to values that fit, down to
the scalars. A key that occurs more than once must fit each time. The sections without faults are the ones
that conform, so they are the ones that can be bound.
-/

namespace DatasetLint.Binding

open Config

variable {σ α : Type}

/-! ## What fits -/

/-- `x` is a text that `t` reads, or the empty node if `t` has a value for it. -/
def ScalarType.Fits (t : ScalarType α) (x : Node) : Prop :=
  (∃ s a, x = .scalar s ∧ t.read s = .ok a) ∨ (x = .null ∧ ∃ a, t.null = some a)

/-- `x` is a sequence of items that fit, or the empty node. -/
def SequenceFits (fits : Node → Prop) (x : Node) : Prop :=
  x = .null ∨ ∃ xs, x = .sequence xs ∧ ∀ y ∈ xs, fits y

/-- `x` is a mapping of entries that fit, or the empty node. -/
def MappingFits (fits : String → Node → Prop) (x : Node) : Prop :=
  x = .null ∨ ∃ es, x = .mapping es ∧ ∀ e ∈ es, fits e.1 e.2

mutual

/-- A section that `bindUnder` takes: a mapping of entries each of which the fields of the record take. -/
def Record.Conforms {σ : Type} : Record σ → Node → Prop
  | .mk _ fields _, x => MappingFits fields.Fits x

/-- A declared key `k` and a value `x` that its field takes. -/
def Fields.Fits {σ : Type} : Fields σ → String → Node → Prop
  | .nil, _, _ => False
  | .cons key kind _ rest, k, x => if key = k then kind.Fits x else rest.Fits k x

/-- `x` is a value of the kind. -/
def Kind.Fits {α : Type} : Kind α → Node → Prop
  | .scalar t, x => t.Fits x
  | .scalars t, x => SequenceFits t.Fits x
  | .record r, x => r.Conforms x
  | .optionalRecord r, x => r.Conforms x
  | .records r, x => SequenceFits r.Conforms x

end

theorem Record.conforms_iff {r : Record σ} {x : Node} :
    r.Conforms x ↔ MappingFits r.fields.Fits x := by
  cases r
  rw [Conforms, fields]

theorem Fields.fits_iff : ∀ {fs : Fields σ} {k : String} {x : Node},
    fs.Fits k x ↔ ∃ f, fs.find? k = some f ∧ f.kind.Fits x
  | .nil, k, x => by
    simp [Fits, find?]
  | .cons key kind set rest, k, x => by
    rw [Fits, find?]
    split
    · simp
    · exact fits_iff

/-! ## What fits has no faults -/

theorem ScalarType.faults_eq_nil_iff (t : ScalarType α) (x : Node) : t.faults x = [] ↔ t.Fits x := by
  rw [Fits]
  cases x with
  | scalar s =>
    rw [faults]
    cases h : t.read s with
    | ok a => exact ⟨fun _ => .inl ⟨s, a, rfl, h⟩, fun _ => rfl⟩
    | error reason => simp [h]
  | null =>
    rw [faults]
    cases h : t.null with
    | some a => simp
    | none => simp
  | mapping es => simp [faults]
  | sequence xs => simp [faults]

theorem sequenceFaults_eq_nil_iff {faults : Node → List BindFault} {fits : Node → Prop}
    (h : ∀ x, faults x = [] ↔ fits x) (x : Node) : sequenceFaults faults x = [] ↔ SequenceFits fits x := by
  rw [SequenceFits]
  cases x with
  | sequence xs =>
    rw [sequenceFaults, List.flatMap_eq_nil_iff]
    simp only [List.map_eq_nil_iff, h, reduceCtorEq, Node.sequence.injEq, false_or, exists_eq_left']
    -- the numbers of the items do not matter
    constructor
    · intro hall y hy
      obtain ⟨i, hi, rfl⟩ := List.getElem_of_mem hy
      exact hall (xs[i], i) (List.mk_mem_zipIdx_iff_getElem?.2 (List.getElem?_eq_getElem hi))
    · intro hall y hy
      obtain ⟨y, i⟩ := y
      exact hall y (List.mem_of_getElem? (List.mk_mem_zipIdx_iff_getElem?.1 hy))
  | null => simp [sequenceFaults]
  | scalar s => simp [sequenceFaults]
  | mapping es => simp [sequenceFaults]

theorem mappingFaults_eq_nil_iff {faults : String → Node → List BindFault} {fits : String → Node → Prop}
    (h : ∀ k x, faults k x = [] ↔ fits k x) (x : Node) : mappingFaults faults x = [] ↔ MappingFits fits x := by
  rw [MappingFits]
  cases x with
  | mapping es =>
    rw [mappingFaults, List.flatMap_eq_nil_iff]
    simp only [List.map_eq_nil_iff, h, reduceCtorEq, Node.mapping.injEq, false_or, exists_eq_left']
  | null => simp [mappingFaults]
  | scalar s => simp [mappingFaults]
  | sequence xs => simp [mappingFaults]

private theorem Fields.faults_eq_nil_iff_of {fs : Fields σ}
    (h : ∀ k f, (k, f) ∈ fs.toList → ∀ x, f.kind.faults x = [] ↔ f.kind.Fits x) (k : String) (x : Node) :
    fs.faults k x = [] ↔ fs.Fits k x := by
  rw [faults_eq, fits_iff]
  cases hf : fs.find? k with
  | none => simp
  | some f => simp [h k f (mem_of_find? hf)]

theorem Kind.faults_eq_nil_iff (kind : Kind α) (x : Node) : kind.faults x = [] ↔ kind.Fits x := by
  induction kind using Kind.induction (P := fun r => ∀ x, r.faults x = [] ↔ r.Conforms x) generalizing x with
  | record r ih =>
    rw [r.faults_eq, Record.conforms_iff]
    exact mappingFaults_eq_nil_iff (Fields.faults_eq_nil_iff_of ih) _
  | scalar t =>
    rw [Kind.faults, Kind.Fits]
    exact t.faults_eq_nil_iff x
  | scalars t =>
    rw [Kind.faults, Kind.Fits]
    exact sequenceFaults_eq_nil_iff t.faults_eq_nil_iff x
  | ofRecord r ih =>
    rw [Kind.faults, Kind.Fits]
    exact ih x
  | ofOptionalRecord r ih =>
    rw [Kind.faults, Kind.Fits]
    exact ih x
  | ofRecords r ih =>
    rw [Kind.faults, Kind.Fits]
    exact sequenceFaults_eq_nil_iff ih x

theorem Record.faults_eq_nil_iff (r : Record σ) (x : Node) : r.faults x = [] ↔ r.Conforms x := by
  rw [r.faults_eq, conforms_iff]
  exact mappingFaults_eq_nil_iff (Fields.faults_eq_nil_iff_of fun _ f _ => f.kind.faults_eq_nil_iff) x

/-- The sections that can be bound are those that `Conforms` accepts, whatever `path` they have and whatever `s`
was. -/
theorem Record.error_bindUnder_eq_none_iff (r : Record σ) (path : NodePath) (s : σ) (x : Node) :
    (r.bindUnder path s x).error = none ↔ r.Conforms x := by
  rw [r.error_bindUnder, firstFault_eq_none_iff, r.faults_eq_nil_iff]

end DatasetLint.Binding
