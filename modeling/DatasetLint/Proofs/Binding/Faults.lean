import DatasetLint.Check.Prefixes
import DatasetLint.Proofs.Binding.Fields
import DatasetLint.Proofs.Refusal

/-!
# The faults of a section

All that does not fit in a section, as a list: `Kind.faults` goes through the section as a document, the
first entry or item first and each with all that is inside it, and notes every node that does not fit, with
its path from the section. Binding stops at the head of this list, and until it stops nothing has happened
but the entries before.
-/

namespace DatasetLint.Binding

open Config

variable {σ α : Type}

/-! ## Places of faults -/

/-- The fault `e`, seen from one `step` further out. -/
def BindFault.under (step : Step) (e : BindFault) : BindFault := { e with path := step :: e.path }

/-- The fault `e`, seen from where its section has the path `path`. -/
def BindFault.within (path : NodePath) (e : BindFault) : BindFault := { e with path := path ++ e.path }

private theorem BindFault.within_under (path : NodePath) (step : Step) (e : BindFault) :
    (e.under step).within path = e.within (path ++ [step]) := by
  simp [under, within]

/-- The first of the faults `es` in a section that has the path `path`. -/
def firstFault (path : NodePath) (es : List BindFault) : Option BindFault := es.head?.map (·.within path)

private theorem firstFault_here (path : NodePath) (m : Misfit) : firstFault path [⟨[], m⟩] = some ⟨path, m⟩ := by
  simp [firstFault, BindFault.within]

private theorem firstFault_append (path : NodePath) (es fs : List BindFault) :
    firstFault path (es ++ fs) = (firstFault path es).or (firstFault path fs) := by
  cases es <;> simp [firstFault]

private theorem firstFault_under (path : NodePath) (step : Step) (es : List BindFault) :
    firstFault path (es.map (·.under step)) = firstFault (path ++ [step]) es := by
  cases es <;> simp [firstFault, BindFault.within_under]

theorem firstFault_eq_none_iff {path : NodePath} {es : List BindFault} :
    firstFault path es = none ↔ es = [] := by
  simp [firstFault]

/-! ## All faults, in the order of the document -/

def ScalarType.faults (t : ScalarType α) : Node → List BindFault
  | .scalar s =>
    match t.read s with
    | .ok _ => []
    | .error reason => [⟨[], .unreadable s t.expected reason⟩]
  | .null => if t.null.isSome then [] else [⟨[], .wrongKind t.expected "null"⟩]
  | x => [⟨[], .wrongKind t.expected x.kind⟩]

/-- The `faults` of the items of a sequence, each at its number. -/
def sequenceFaults (faults : Node → List BindFault) : Node → List BindFault
  | .sequence xs => xs.zipIdx.flatMap fun x => (faults x.1).map (·.under (.index x.2))
  | .null => []
  | x => [⟨[], .wrongKind "sequence" x.kind⟩]

/-- The `faults` of the entries of a mapping, each at its key. -/
def mappingFaults (faults : String → Node → List BindFault) : Node → List BindFault
  | .mapping es => es.flatMap fun e => (faults e.1 e.2).map (·.under (.key e.1))
  | .null => []
  | x => [⟨[], .wrongKind "mapping" x.kind⟩]

mutual

def Record.faults {σ : Type} : Record σ → Node → List BindFault
  | .mk _ fields _, x => mappingFaults fields.faults x

/-- The faults of the value of a key `k`, or that no field has it. -/
def Fields.faults {σ : Type} : Fields σ → String → Node → List BindFault
  | .nil, _, _ => [⟨[], .unknownKey⟩]
  | .cons key kind _ rest, k, x => if key = k then kind.faults x else rest.faults k x

def Kind.faults {α : Type} : Kind α → Node → List BindFault
  | .scalar t, x => t.faults x
  | .scalars t, x => sequenceFaults t.faults x
  | .record r, x => r.faults x
  | .optionalRecord r, x => r.faults x
  | .records r, x => sequenceFaults r.faults x

end

theorem Record.faults_eq (r : Record σ) (x : Node) : r.faults x = mappingFaults r.fields.faults x := by
  cases r
  rw [faults, fields]

theorem Fields.faults_eq : ∀ (fs : Fields σ) (k : String) (x : Node),
    fs.faults k x = match fs.find? k with
      | none => [⟨[], .unknownKey⟩]
      | some f => f.kind.faults x
  | .nil, _, _ => by
    simp only [faults, find?]
  | .cons key kind set rest, k, x => by
    simp only [faults, find?]
    split
    · rfl
    · exact faults_eq rest k x

/-! ## Binding reports the first fault -/

private theorem ScalarType.refusal?_bind (t : ScalarType α) (path : NodePath) (x : Node) :
    (t.bind path x).refusal? = firstFault path (t.faults x) := by
  cases x with
  | scalar s =>
    rw [bind, faults]
    cases t.read s with
    | ok a => rfl
    | error reason => rw [firstFault_here]; rfl
  | null =>
    rw [bind, faults]
    cases t.null with
    | some a => rfl
    | none => exact (firstFault_here path _).symm
  | mapping es => exact (firstFault_here path _).symm
  | sequence xs => exact (firstFault_here path _).symm

section Sequences

variable {bind : NodePath → Node → Except BindFault α} {faults : Node → List BindFault}

private theorem refusal?_bindItems (h : ∀ path x, (bind path x).refusal? = firstFault path (faults x))
    (path : NodePath) (xs : List Node) (i : Nat) : (bindItems bind path i xs).refusal? =
      firstFault path ((xs.zipIdx i).flatMap fun x => (faults x.1).map (·.under (.index x.2))) := by
  induction xs generalizing i with
  | nil => rfl
  | cons x xs ih =>
    -- the first item is refused, or else the rest is bound from the next number on
    have hx := h (path ++ [.index i]) x
    rw [List.zipIdx_cons, List.flatMap_cons, firstFault_append, firstFault_under, ← hx, ← ih (i + 1)]
    rw [bindItems]
    cases bind (path ++ [.index i]) x with
    | error e => rfl
    | ok a => exact Except.refusal?_map _ _

private theorem refusal?_bindSequence (h : ∀ path x, (bind path x).refusal? = firstFault path (faults x))
    (path : NodePath) (x : Node) :
    (bindSequence bind path x).refusal? = firstFault path (sequenceFaults faults x) := by
  cases x with
  | sequence xs => exact refusal?_bindItems h path xs 0
  | null => rfl
  | scalar s => exact (firstFault_here path _).symm
  | mapping es => exact (firstFault_here path _).symm

end Sequences

section Mappings

variable {assign : String → NodePath → Node → σ → Except BindFault σ}
  {faults : String → Node → List BindFault}

private theorem error_bindEntries (h : ∀ k path x s, (assign k path x s).refusal? = firstFault path (faults k x))
    (path : NodePath) (es : List (String × Node)) (s : σ) : (bindEntries assign path s es).error =
      firstFault path (es.flatMap fun e => (faults e.1 e.2).map (·.under (.key e.1))) := by
  induction es generalizing s with
  | nil => rfl
  | cons e es ih =>
    obtain ⟨k, x⟩ := e
    -- the record changes from entry to entry, but what is refused does not depend on it
    have hx := h k (path ++ [.key k]) x s
    rw [List.flatMap_cons, firstFault_append, firstFault_under, ← hx, bindEntries]
    cases assign k (path ++ [.key k]) x s with
    | error e => rfl
    | ok s => exact ih s

/-- `finish` does not refuse anything. -/
theorem error_bindSection_mapping (finish : σ → σ) (path : NodePath) (s : σ) (es : List (String × Node)) :
    (bindSection assign finish path s (.mapping es)).error = (bindEntries assign path s es).error := by
  rw [bindSection]
  cases he : (bindEntries assign path s es).error with
  | none => simp
  | some e => simp [he]

private theorem error_bindSection (h : ∀ k path x s, (assign k path x s).refusal? = firstFault path (faults k x))
    (finish : σ → σ) (path : NodePath) (s : σ) (x : Node) :
    (bindSection assign finish path s x).error = firstFault path (mappingFaults faults x) := by
  cases x with
  | mapping es =>
    rw [error_bindSection_mapping]
    exact error_bindEntries h path es s
  | null => rfl
  | scalar t => exact (firstFault_here path _).symm
  | sequence xs => exact (firstFault_here path _).symm

end Mappings

private theorem Record.refusal?_fresh (r : Record σ) (path : NodePath) (x : Node) :
    (r.fresh path x).refusal? = (r.bindUnder path r.start x).error := by
  rw [fresh_eq, Bound.value]
  cases (r.bindUnder path r.start x).error <;> rfl

private theorem Fields.refusal?_assign_of {fs : Fields σ}
    (h : ∀ k f, (k, f) ∈ fs.toList →
      ∀ path x, (f.kind.bind path x).refusal? = firstFault path (f.kind.faults x))
    (k : String) (path : NodePath) (x : Node) (s : σ) :
    (fs.assign k path x s).refusal? = firstFault path (fs.faults k x) := by
  rw [assign_eq, faults_eq]
  cases hf : fs.find? k with
  | none => exact (firstFault_here path _).symm
  | some f =>
    simp only [Except.refusal?_map]
    exact h k f (mem_of_find? hf) path x

/-- `bind` refuses a value for the `firstFault` of its node, and only then. -/
theorem Kind.refusal?_bind (kind : Kind α) (path : NodePath) (x : Node) :
    (kind.bind path x).refusal? = firstFault path (kind.faults x) := by
  induction kind using Kind.induction (P := fun r =>
    ∀ path s x, (r.bindUnder path s x).error = firstFault path (r.faults x)) generalizing path x with
  | record r ih =>
    rw [r.bindUnder_eq, r.faults_eq]
    exact error_bindSection (Fields.refusal?_assign_of ih) _ _ _ _
  | scalar t =>
    rw [Kind.bind, Kind.faults]
    exact t.refusal?_bind path x
  | scalars t =>
    rw [Kind.bind, Kind.faults]
    exact refusal?_bindSequence t.refusal?_bind path x
  | ofRecord r ih =>
    rw [Kind.bind, Kind.faults, r.refusal?_fresh, ih]
  | ofOptionalRecord r ih =>
    rw [Kind.bind, Kind.faults]
    split
    · rename_i hnull
      -- a missing record has no faults, as an empty mapping would not
      cases x <;> cases hnull
      rw [r.faults_eq]
      rfl
    · rw [Except.refusal?_map, r.refusal?_fresh, ih]
  | ofRecords r ih =>
    rw [Kind.bind, Kind.faults]
    refine refusal?_bindSequence (fun path x => ?_) path x
    rw [r.refusal?_fresh, ih]

/-- `assign` refuses an entry for the `firstFault` of its value, whatever the record `s` is. -/
theorem Fields.refusal?_assign (fs : Fields σ) (k : String) (path : NodePath) (x : Node) (s : σ) :
    (fs.assign k path x s).refusal? = firstFault path (fs.faults k x) :=
  Fields.refusal?_assign_of (fun _ f _ => f.kind.refusal?_bind) k path x s

theorem Record.error_bindUnder (r : Record σ) (path : NodePath) (s : σ) (x : Node) :
    (r.bindUnder path s x).error = firstFault path (r.faults x) := by
  rw [r.bindUnder_eq, r.faults_eq]
  exact error_bindSection r.fields.refusal?_assign _ _ _ _

/-! ## Where binding stops -/

/-- The entries of a section at `path` change a record, one after the other, from `s` to `t`. -/
inductive Fields.Assigned (fs : Fields σ) (path : NodePath) : List (String × Node) → σ → σ → Prop
  | nil (s : σ) : Assigned fs path [] s s
  | cons {k : String} {x : Node} {es : List (String × Node)} {s t u : σ}
      (first : fs.assign k (path ++ [.key k]) x s = .ok t) (rest : Assigned fs path es t u) :
      Assigned fs path ((k, x) :: es) s u

private theorem Fields.bindEntries_stops {fs : Fields σ} {path : NodePath} {es : List (String × Node)} {s : σ}
    {e : BindFault} (h : (bindEntries fs.assign path s es).error = some e) :
    ∃ before k y after, es = before ++ (k, y) :: after ∧
      fs.Assigned path before s (bindEntries fs.assign path s es).target ∧
      ∀ u, fs.assign k (path ++ [.key k]) y u = .error e := by
  -- the entries before are those that have been taken when the induction reaches one that is not
  induction es generalizing s with
  | nil => cases h
  | cons entry es ih =>
    obtain ⟨k, y⟩ := entry
    cases hassign : fs.assign k (path ++ [.key k]) y s with
    | error e' =>
      simp only [bindEntries, hassign] at h ⊢
      cases h
      refine ⟨[], k, y, es, rfl, .nil s, ?_⟩
      intro u
      have hsame : (fs.assign k (path ++ [.key k]) y u).refusal? = some e := by
        rw [refusal?_assign, ← refusal?_assign fs k _ y s, hassign]
        rfl
      exact Except.refusal?_eq_some_iff.1 hsame
    | ok t =>
      simp only [bindEntries, hassign] at h ⊢
      obtain ⟨before, k', y', after, rfl, hbefore, hstop⟩ := ih h
      exact ⟨(k, y) :: before, k', y', after, rfl, .cons hassign hbefore, hstop⟩

/-- `bindUnder` that fails reports the `firstFault` of `x`. Either `x` is no mapping at all, and the target is still
`s`; or it fails at the entry of `k` and `y`, which no record takes, and of `s` just the entries `before` have been
`Assigned`: the field of `k` is as it was, and `finish` has not run. -/
theorem Record.bindUnder_stops (r : Record σ) (path : NodePath) (s : σ) (x : Node) {e : BindFault}
    (h : (r.bindUnder path s x).error = some e) :
    firstFault path (r.faults x) = some e ∧
    ((x.isNull = false ∧ x.entries? = none ∧ e = ⟨path, .wrongKind "mapping" x.kind⟩ ∧
        (r.bindUnder path s x).target = s) ∨
      ∃ before k y after, x = .mapping (before ++ (k, y) :: after) ∧
        r.fields.Assigned path before s (r.bindUnder path s x).target ∧
        ∀ u, r.fields.assign k (path ++ [.key k]) y u = .error e) := by
  refine ⟨(r.error_bindUnder path s x).symm.trans h, ?_⟩
  rw [r.bindUnder_eq] at h ⊢
  cases x with
  | null => cases h
  | scalar text =>
    cases h
    exact .inl ⟨rfl, rfl, rfl, rfl⟩
  | sequence xs =>
    cases h
    exact .inl ⟨rfl, rfl, rfl, rfl⟩
  | mapping es =>
    right
    rw [error_bindSection_mapping] at h
    -- after a fault the record is left as the entries before have made it
    have htarget : (bindSection r.fields.assign r.finish path s (.mapping es)).target =
        (bindEntries r.fields.assign path s es).target := by
      simp [bindSection, h]
    obtain ⟨before, k, y, after, rfl, hbefore, hstop⟩ := Fields.bindEntries_stops h
    rw [htarget]
    exact ⟨before, k, y, after, rfl, hbefore, hstop⟩

/-- Rules of which the second has a key without meaning. -/
def coloredRules : Node :=
  .mapping [("severity", .scalar "error"), ("prefixes", .sequence
    [.mapping [("name", .scalar "a")], .mapping [("name", .scalar "b"), ("color", .scalar "red")]])]

/-- The severity is bound; the rules are those from before. -/
theorem bindUnder_stops_coloredRules :
    Check.Prefixes.Settings.record.bindUnder [] ⟨.warning, [⟨"c", "d", none⟩]⟩ coloredRules =
      ⟨⟨.error, [⟨"c", "d", none⟩]⟩, some ⟨[.key "prefixes", .index 1, .key "color"], .unknownKey⟩⟩ ∧
    firstFault [] (Check.Prefixes.Settings.record.faults coloredRules) =
      some ⟨[.key "prefixes", .index 1, .key "color"], .unknownKey⟩ :=
  ⟨rfl, (Record.bindUnder_stops Check.Prefixes.Settings.record [] ⟨.warning, [⟨"c", "d", none⟩]⟩
    coloredRules rfl).1⟩

end DatasetLint.Binding
