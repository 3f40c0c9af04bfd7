import DatasetLint.Binding.NodePath
import DatasetLint.Binding.ScalarType

/-!
# Records and how sections fill them

A `Record` names the keys of a configuration section and says what kind of value each takes. Binding
goes through the entries of a section in order: each one either replaces its field or is the first
that does not fit, where binding stops. What a field takes is read completely before the field changes.
-/

namespace DatasetLint.Binding

mutual

/-- A record: the values that its fields have before anything is bound, its fields, and what
remains to be done once all entries are bound. -/
inductive Record : Type → Type 1 where
  | mk {σ : Type} (start : σ) (fields : Fields σ) (finish : σ → σ) : Record σ

/-- The fields of a record by key: what is read there and how it changes the record. -/
inductive Fields : Type → Type 1 where
  | nil {σ : Type} : Fields σ
  | cons {σ α : Type} (key : String) (kind : Kind α) (set : α → σ → σ) (rest : Fields σ) : Fields σ

/-- What the value of a key may be. -/
inductive Kind : Type → Type 1 where
  | scalar {α : Type} (t : ScalarType α) : Kind α
  | scalars {α : Type} (t : ScalarType α) : Kind (List α)
  | record {α : Type} (r : Record α) : Kind α
  | optionalRecord {α : Type} (r : Record α) : Kind (Option α)
  | records {α : Type} (r : Record α) : Kind (List α)

end

/-- A record after entries were bound onto it: as it is now, and the first entry that did not fit. -/
structure Bound (σ : Type) where
  target : σ
  error : Option BindFault

/-- The value of a scalar. -/
def ScalarType.bind {α : Type} (t : ScalarType α) (path : NodePath) : Config.Node → Except BindFault α
  | .scalar s => (t.read s).mapError fun reason => ⟨path, .unreadable s t.expected reason⟩
  | .null =>
    match t.null with
    | some a => .ok a
    | none => .error ⟨path, .wrongKind t.expected "null"⟩
  | x => .error ⟨path, .wrongKind t.expected x.kind⟩

/-- The items of a sequence, from number `i` on, up to the first that does not fit. -/
def bindItems {α : Type} (bind : NodePath → Config.Node → Except BindFault α) (path : NodePath) :
    Nat → List Config.Node → Except BindFault (List α)
  | _, [] => .ok []
  | i, x :: xs =>
    match bind (path ++ [.index i]) x with
    | .error e => .error e
    | .ok a => (bindItems bind path (i + 1) xs).map (a :: ·)

/-- A sequence, or nothing at all. -/
def bindSequence {α : Type} (bind : NodePath → Config.Node → Except BindFault α) (path : NodePath) :
    Config.Node → Except BindFault (List α)
  | .sequence xs => bindItems bind path 0 xs
  | .null => .ok []
  | x => .error ⟨path, .wrongKind "sequence" x.kind⟩

/-- Entries in order, up to the first that does not fit. -/
def bindEntries {σ : Type} (assign : String → NodePath → Config.Node → σ → Except BindFault σ)
    (path : NodePath) (s : σ) : List (String × Config.Node) → Bound σ
  | [] => ⟨s, none⟩
  | (k, x) :: es =>
    match assign k (path ++ [.key k]) x s with
    | .error e => ⟨s, some e⟩
    | .ok s => bindEntries assign path s es

/-- A section onto a record: a mapping, or nothing at all. -/
def bindSection {σ : Type} (assign : String → NodePath → Config.Node → σ → Except BindFault σ)
    (finish : σ → σ) (path : NodePath) (s : σ) : Config.Node → Bound σ
  | .mapping es =>
    let b := bindEntries assign path s es
    if b.error.isSome then b else ⟨finish b.target, none⟩
  | .null => ⟨finish s, none⟩
  | x => ⟨s, some ⟨path, .wrongKind "mapping" x.kind⟩⟩

/-- A record as a value: only one that was bound completely. -/
def Bound.value {σ : Type} (b : Bound σ) : Except BindFault σ :=
  match b.error with
  | some e => .error e
  | none => .ok b.target

mutual

/-- A fresh record from a node. -/
def Record.fresh {σ : Type} : Record σ → NodePath → Config.Node → Except BindFault σ
  | .mk start fields finish, path, x => (bindSection fields.assign finish path start x).value

/-- An entry onto a record. -/
def Fields.assign {σ : Type} : Fields σ → String → NodePath → Config.Node → σ → Except BindFault σ
  | .nil, _, path, _, _ => .error ⟨path, .unknownKey⟩
  | .cons key kind set rest, k, path, x, s =>
    if key = k then (kind.bind path x).map (set · s) else rest.assign k path x s

/-- The value that a node gives a field. -/
def Kind.bind {α : Type} : Kind α → NodePath → Config.Node → Except BindFault α
  | .scalar t, path, x => t.bind path x
  | .scalars t, path, x => bindSequence t.bind path x
  | .record r, path, x => r.fresh path x
  | .optionalRecord r, path, x => if x.isNull then .ok none else (r.fresh path x).map some
  | .records r, path, x => bindSequence r.fresh path x

end

namespace Record

/-- The record before anything is bound. -/
def start {σ : Type} : Record σ → σ
  | .mk s _ _ => s

/-- A section that is found at a path, onto a record. -/
def bindUnder {σ : Type} (r : Record σ) (path : NodePath) (s : σ) (x : Config.Node) : Bound σ :=
  match r with
  | .mk _ fields finish => bindSection fields.assign finish path s x

/-- A section onto a record. -/
def bind {σ : Type} (r : Record σ) (s : σ) (x : Config.Node) : Bound σ := r.bindUnder [] s x

end Record

end DatasetLint.Binding
