import DatasetLint.Binding.Schema

/-!
# The fields of a record

The fields that a record declares, one by one, and what an entry does to the record in terms of the field
that has its key. With induction over schemas: what is to be shown of every kind of value is shown of a
record as soon as it holds for the kinds of its fields.
-/

namespace DatasetLint.Binding

/-- A field: the `kind` of its values, and how one of them changes the record. -/
structure Field (σ : Type) where
  {type : Type}
  kind : Kind type
  set : type → σ → σ

variable {σ : Type}

namespace Record

def fields : Record σ → Fields σ
  | .mk _ fields _ => fields

/-- What remains to be done with the record once all entries are bound. -/
def finish : Record σ → σ → σ
  | .mk _ _ finish => finish

theorem bindUnder_eq (r : Record σ) (path : NodePath) (s : σ) (x : Config.Node) :
    r.bindUnder path s x = bindSection r.fields.assign r.finish path s x := by
  cases r
  rfl

/-- `fresh` binds onto what the fields of `r` are at the start. -/
theorem fresh_eq (r : Record σ) (path : NodePath) (x : Config.Node) :
    r.fresh path x = (r.bindUnder path r.start x).value := by
  cases r
  rfl

end Record

namespace Fields

/-- The fields with their keys. -/
def toList : Fields σ → List (String × Field σ)
  | .nil => []
  | .cons key kind set rest => (key, ⟨kind, set⟩) :: rest.toList

/-- The field with the key `k`; of several the first. -/
def find? : Fields σ → String → Option (Field σ)
  | .nil, _ => none
  | .cons key kind set rest, k => if key = k then some ⟨kind, set⟩ else rest.find? k

theorem mem_of_find? : ∀ {fs : Fields σ} {k : String} {f : Field σ},
    fs.find? k = some f → (k, f) ∈ fs.toList
  | .nil, _, _, h => by
    rw [find?] at h
    cases h
  | .cons key kind set rest, k, f, h => by
    rw [toList, List.mem_cons]
    rw [find?] at h
    split at h
    · rename_i hkey
      cases h
      rw [hkey]
      exact .inl rfl
    · exact .inr (mem_of_find? h)

/-- `assign` changes the field that `find?` has for the key. -/
theorem assign_eq : ∀ (fs : Fields σ) (k : String) (path : NodePath) (x : Config.Node) (s : σ),
    fs.assign k path x s = match fs.find? k with
      | none => .error ⟨path, .unknownKey⟩
      | some f => (f.kind.bind path x).map (f.set · s)
  | .nil, _, _, _, _ => by
    simp only [assign, find?]
  | .cons key kind set rest, k, path, x, s => by
    simp only [assign, find?]
    split
    · rfl
    · exact assign_eq rest k path x s

end Fields

/-- Induction over schemas, with one hypothesis `record` for all fields of a record. -/
theorem Kind.induction {motive : ∀ α : Type, Kind α → Prop} {P : ∀ {σ : Type}, Record σ → Prop}
    (record : ∀ {σ : Type} (r : Record σ), (∀ k f, (k, f) ∈ r.fields.toList → motive _ f.kind) → P r)
    (scalar : ∀ {α : Type} (t : ScalarType α), motive _ (.scalar t))
    (scalars : ∀ {α : Type} (t : ScalarType α), motive _ (.scalars t))
    (ofRecord : ∀ {α : Type} (r : Record α), P r → motive _ (.record r))
    (ofOptionalRecord : ∀ {α : Type} (r : Record α), P r → motive _ (.optionalRecord r))
    (ofRecords : ∀ {α : Type} (r : Record α), P r → motive _ (.records r)) {α : Type} (kind : Kind α) :
    motive α kind := by
  refine @Kind.rec (fun _ r => P r) (fun _ fs => ∀ k f, (k, f) ∈ fs.toList → motive _ f.kind) motive
    ?_ ?_ ?_ scalar scalars ofRecord ofOptionalRecord ofRecords α kind
  · intro σ start fields finish ih
    exact record _ ih
  · intro σ k f h
    cases h
  · intro σ α key kind set rest ihKind ihRest k f h
    rw [Fields.toList, List.mem_cons] at h
    rcases h with h | h
    · cases h
      exact ihKind
    · exact ihRest k f h

end DatasetLint.Binding
