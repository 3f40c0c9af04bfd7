import DatasetLint.Proofs.Yaml.Meaning
import DatasetLint.Proofs.Yaml.Reading

/-!
# Places in a document

A place is told by the numbers of the items and entries that one goes down through. The node at a place, aliases
being followed, is read as the value at that place.
-/

namespace DatasetLint.Yaml

/-! ## Going down -/

/-- What is reached by going down through the numbered `parts`. -/
def reach? {α : Type} (parts : α → List α) : α → List Nat → Option α
  | x, [] => some x
  | x, i :: p => (parts x)[i]?.bind fun y => reach? parts y p

section

variable {α β : Type} {R : α → β → Prop}

private theorem rel_getElem? {as : List α} {bs : List β} (h : List.Forall₂ R as bs) (i : Nat) :
    Option.Rel R as[i]? bs[i]? := by
  induction h generalizing i with
  | nil => exact .none
  | cons hab _ ih =>
    cases i with
    | zero => exact .some hab
    | succ i => exact ih i

/-- Things whose parts correspond under `R` correspond at every place. -/
theorem rel_reach? {parts : α → List α} {parts' : β → List β}
    (hparts : ∀ a b, R a b → List.Forall₂ R (parts a) (parts' b)) {a : α} {b : β} (h : R a b) (p : List Nat) :
    Option.Rel R (reach? parts a p) (reach? parts' b p) := by
  induction p generalizing a b with
  | nil => exact .some h
  | cons i p ih =>
    -- either both have a part of this number, and the rest of the way is below it, or neither has
    have hpart := rel_getElem? (hparts a b h) i
    rw [reach?, reach?]
    generalize (parts a)[i]? = o at hpart
    generalize (parts' b)[i]? = o' at hpart
    cases hpart with
    | none => exact .none
    | some hpart => exact ih hpart

theorem exists_left_of_rel {o : Option α} {o' : Option β} (h : Option.Rel R o o') {b : β} (hb : o' = some b) :
    ∃ a, o = some a ∧ R a b := by
  cases h with
  | none => cases hb
  | some hab =>
    cases hb
    exact ⟨_, rfl, hab⟩

theorem exists_right_of_rel {o : Option α} {o' : Option β} (h : Option.Rel R o o') {a : α} (ha : o = some a) :
    ∃ b, o' = some b ∧ R a b := by
  cases h with
  | none => cases ha
  | some hab =>
    cases ha
    exact ⟨_, rfl, hab⟩

end

/-! ## Nodes and values -/

/-- The nodes below `x`, or below the node that it refers to. -/
def Node.parts (refs : References) (x : Node) : List Node :=
  match x.target? refs with
  | some (.sequence _ _ _ xs) => xs
  | some (.mapping _ _ _ es) => es.map (·.2)
  | _ => []

namespace Value

/-- The values below `v`. -/
def parts (v : Value) : List Value :=
  match v.untagged with
  | sequence vs => vs
  | mapping es => es.map (·.2)
  | _ => []

/-- The value at the place `p` of `v`. -/
def at? (v : Value) (p : List Nat) : Option Value := reach? parts v p

end Value

namespace Reader

variable {refs : References} {x : Node} {v : Value}

private theorem Reads.parts (h : Reads refs x v) : List.Forall₂ (Reads refs) (x.parts refs) v.parts := by
  rw [Node.parts, Value.parts]
  cases h with
  | scalar hx =>
    rw [hx, untagged_underTag]
    exact .nil
  | sequence hx hvs =>
    rw [hx, untagged_underTag]
    exact hvs
  | mapping hx _ hvalues =>
    rw [hx, untagged_underTag]
    exact hvalues

/-- The node at the place `p` is read as the value there. -/
theorem Reads.at? (h : Reads refs x v) (p : List Nat) :
    Option.Rel (Reads refs) (reach? (Node.parts refs) x p) (v.at? p) :=
  rel_reach? (fun _ _ h => h.parts) h p

end Reader

/-! ## Documents -/

namespace Document

/-- The node of `doc`; a document without any has an empty node. -/
def node (doc : Document) : Node := doc.root.getD (.empty .start)

def references (doc : Document) : References := ⟨doc.node.anchored, aliasFactor * doc.node.events.1⟩

/-- The node at the place `p` of `doc`, behind aliases. -/
def at? (doc : Document) (p : List Nat) : Option Node :=
  (reach? (Node.parts doc.references) doc.node p).bind (·.target? doc.references)

theorem read_eq {α : Type} (r : Reader α) (doc : Document) : doc.read r =
    match r depthLimit .root doc.node doc.references 0 with
    | .error e => .error e
    | .ok (a, _) => if !doc.complete then .error .malformed else if doc.more then .error .manyDocuments else .ok a :=
  rfl

theorem read_eq_ok {α : Type} {r : Reader α} {doc : Document} {a : α} (h : doc.read r = .ok a) :
    ∃ n, r depthLimit .root doc.node doc.references 0 = .ok (a, n) := by
  rw [read_eq] at h
  split at h
  · cases h
  · rename_i b n hb
    split at h
    · cases h
    · split at h
      · cases h
      · cases h
        exact ⟨n, hb⟩

theorem read_map {α β : Type} (r : Reader α) (f : α → β) (doc : Document) :
    doc.read (fun d path x => f <$> r d path x) = (doc.read r).map f := by
  have hmap : (f <$> r depthLimit .root doc.node) doc.references 0 =
      (r depthLimit .root doc.node doc.references 0).map fun p => (f p.1, p.2) := rfl
  rw [read_eq, read_eq, hmap]
  cases r depthLimit .root doc.node doc.references 0 with
  | error e => rfl
  | ok p =>
    dsimp only [Except.map]
    split
    · rfl
    · split <;> rfl

/-- A document that is read as `v` has the value `v` for its node. -/
theorem reads_of_read {doc : Document} {v : Value} (h : doc.read Reader.value = .ok v) :
    Reader.Reads doc.references doc.node v := by
  obtain ⟨n, hn⟩ := read_eq_ok h
  exact Reader.yields_value depthLimit .root doc.node 0 v n hn

end Document

end DatasetLint.Yaml
