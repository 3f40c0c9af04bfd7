import DatasetLint.Proofs.Binding.Faults

/-!
# Culprits

The path of a fault leads to the node that does not fit, and what the fault says is true of the node: its
kind is the one that was found, or its text is one that the type which is declared there does not read, or
its key is one that the record which is declared there does not have. Since a path names an entry by its
key, each mapping needs to have distinct keys.
-/

namespace DatasetLint.Binding

open Config

variable {σ α : Type}

/-! ## Places in a section -/

/-- No mapping in the section has a key twice. -/
inductive DistinctKeys : Node → Prop
  | null : DistinctKeys .null
  | scalar (s : String) : DistinctKeys (.scalar s)
  | sequence {xs : List Node} (items : ∀ x ∈ xs, DistinctKeys x) : DistinctKeys (.sequence xs)
  | mapping {es : List (String × Node)} (keys : (es.map (·.1)).Nodup)
      (values : ∀ e ∈ es, DistinctKeys e.2) : DistinctKeys (.mapping es)

private theorem NodePath.follow_cons (step : Step) (p : NodePath) (x : Node) :
    NodePath.follow (step :: p) x = (NodePath.follow [step] x).bind (NodePath.follow p) := by
  cases step <;> simp [follow, Option.bind_assoc]

private theorem NodePath.follow_index {xs : List Node} {i : Nat} {y : Node} (h : xs[i]? = some y) :
    NodePath.follow [.index i] (.sequence xs) = some y := by
  simp [follow, Node.items?, h]

theorem lookup_of_mem_nodup {es : List (String × Node)} (h : (es.map (·.1)).Nodup) {k : String} {y : Node}
    (hmem : (k, y) ∈ es) : es.lookup k = some y := by
  induction es with
  | nil => cases hmem
  | cons e es ih =>
    obtain ⟨l, x⟩ := e
    rw [List.map_cons, List.nodup_cons] at h
    rw [List.lookup_cons]
    rcases List.mem_cons.1 hmem with heq | hrest
    · cases heq
      simp
    · have hne : k ≠ l := by
        rintro rfl
        exact h.1 (List.mem_map.2 ⟨(k, y), hrest, rfl⟩)
      rw [beq_eq_false_iff_ne.2 hne]
      exact ih h.2 hrest

private theorem NodePath.follow_key {es : List (String × Node)} (h : (es.map (·.1)).Nodup) {k : String} {y : Node}
    (hmem : (k, y) ∈ es) : NodePath.follow [.key k] (.mapping es) = some y := by
  simp [follow, Node.get?, lookup_of_mem_nodup h hmem]

/-! ## Places in a schema -/

/-- A `Kind` of values of whatever type. -/
structure AnyKind where
  {type : Type}
  kind : Kind type

/-- The keys that `fs` declares. -/
def Fields.keys (fs : Fields σ) : List String := fs.toList.map (·.1)

private theorem Fields.not_mem_keys_of_find? : ∀ {fs : Fields σ} {k : String}, fs.find? k = none → k ∉ fs.keys
  | .nil, _, _ => by
    simp [keys, toList]
  | .cons key kind set rest, k, h => by
    rw [find?] at h
    split at h
    · cases h
    · rename_i hne
      have hrest := not_mem_keys_of_find? h
      rw [keys, toList, List.map_cons, List.mem_cons]
      rintro (rfl | hmem)
      · exact hne rfl
      · exact hrest hmem

namespace AnyKind

/-- The keys that are declared in a value of this kind, if it is a record. -/
def keys? : AnyKind → Option (List String)
  | ⟨.record r⟩ => some r.fields.keys
  | ⟨.optionalRecord r⟩ => some r.fields.keys
  | _ => none

/-- What is declared one `Step` further in. -/
def step? : AnyKind → Step → Option AnyKind
  | ⟨.record r⟩, .key k => (r.fields.find? k).map fun f => ⟨f.kind⟩
  | ⟨.optionalRecord r⟩, .key k => (r.fields.find? k).map fun f => ⟨f.kind⟩
  | ⟨.records r⟩, .index _ => some ⟨.record r⟩
  | ⟨.scalars t⟩, .index _ => some ⟨.scalar t⟩
  | _, _ => none

/-- What is declared at a path, `step?` by `step?`. -/
def at? (q : AnyKind) : NodePath → Option AnyKind
  | [] => some q
  | step :: p => (q.step? step).bind (·.at? p)

/-- Values of the kind `q` are sections of `r`, perhaps optional ones. -/
structure Takes (q : AnyKind) (r : Record σ) : Prop where
  keys : q.keys? = some r.fields.keys
  step : ∀ k, q.step? (.key k) = (r.fields.find? k).map fun f => ⟨f.kind⟩

end AnyKind

/-! ## What a fault says -/

/-- What the fault `e` says of the node that `e.path` leads to in `x`, where `q` is declared for `x`: its kind is
the one that was found, or its text is not read by the scalar type that is declared there, or its key is none of
those that are declared there. -/
def Culprit (q : AnyKind) (x : Node) (e : BindFault) : Prop :=
  ∃ y, e.path.follow x = some y ∧ match e.misfit with
    | .wrongKind _ found => y.kind = found
    | .unreadable text expected reason => y = .scalar text ∧ ∃ (α : Type) (t : ScalarType α),
        q.at? e.path = some ⟨.scalar t⟩ ∧ t.expected = expected ∧ t.read text = .error reason
    | .unknownKey => ∃ p k es keys, e.path = p ++ [.key k] ∧ NodePath.follow p x = some (.mapping es) ∧
        k ∈ es.map (·.1) ∧ (q.at? p).bind AnyKind.keys? = some keys ∧ k ∉ keys

/-- What `e` says one `step` further in it says of the same node from outside. -/
theorem Culprit.under {q q' : AnyKind} {x y : Node} {step : Step} {e : BindFault} (h : Culprit q' y e)
    (hnode : NodePath.follow [step] x = some y) (hkind : q.step? step = some q') :
    Culprit q x (e.under step) := by
  have hfollow (p : NodePath) : NodePath.follow (step :: p) x = NodePath.follow p y := by
    rw [NodePath.follow_cons, hnode, Option.bind_some]
  have hat (p : NodePath) : q.at? (step :: p) = q'.at? p := by
    rw [AnyKind.at?, hkind, Option.bind_some]
  -- both ways of following a path go through the same step first
  obtain ⟨path, misfit⟩ := e
  obtain ⟨z, hz, hmisfit⟩ := h
  refine ⟨z, (hfollow path).trans hz, ?_⟩
  cases misfit with
  | wrongKind expected found => exact hmisfit
  | unreadable text expected reason =>
    obtain ⟨htext, α, t, ht, hread⟩ := hmisfit
    exact ⟨htext, α, t, (hat path).trans ht, hread⟩
  | unknownKey =>
    obtain ⟨p, k, es, keys, hpath, hmapping, hk, hkeys, hnot⟩ := hmisfit
    refine ⟨step :: p, k, es, keys, ?_, (hfollow p).trans hmapping, hk, ?_, hnot⟩
    · exact congrArg (step :: ·) hpath
    · rw [hat]
      exact hkeys

/-- A node `x` of the wrong kind is itself the culprit. -/
theorem Culprit.here (q : AnyKind) (x : Node) (expected : String) :
    Culprit q x ⟨[], .wrongKind expected x.kind⟩ := ⟨x, rfl, rfl⟩

/-- A scalar that `t` refuses is itself the culprit. -/
theorem ScalarType.culprit {t : ScalarType α} {x : Node} {e : BindFault} (he : e ∈ t.faults x) :
    Culprit ⟨.scalar t⟩ x e := by
  cases x with
  | scalar s =>
    rw [faults] at he
    cases hread : t.read s with
    | ok a =>
      rw [hread] at he
      cases he
    | error reason =>
      rw [hread] at he
      cases List.mem_singleton.1 he
      exact ⟨.scalar s, rfl, rfl, α, t, rfl, rfl, hread⟩
  | null =>
    rw [faults] at he
    split at he
    · cases he
    · cases List.mem_singleton.1 he
      exact .here _ .null _
  | mapping es =>
    cases List.mem_singleton.1 he
    exact .here _ (.mapping es) _
  | sequence xs =>
    cases List.mem_singleton.1 he
    exact .here _ (.sequence xs) _

private theorem culprit_of_mem_sequenceFaults {q q' : AnyKind} (hstep : ∀ i, q.step? (.index i) = some q')
    {faults : Node → List BindFault} (h : ∀ x, DistinctKeys x → ∀ e ∈ faults x, Culprit q' x e) {x : Node}
    (hx : DistinctKeys x) {e : BindFault} (he : e ∈ sequenceFaults faults x) : Culprit q x e := by
  cases hx with
  | sequence hitems =>
    rw [sequenceFaults, List.mem_flatMap] at he
    obtain ⟨⟨y, i⟩, hy, he⟩ := he
    obtain ⟨e', he', rfl⟩ := List.mem_map.1 he
    have hitem := List.mk_mem_zipIdx_iff_getElem?.1 hy
    exact (h y (hitems y (List.mem_of_getElem? hitem)) e' he').under (NodePath.follow_index hitem) (hstep i)
  | null => cases he
  | scalar s =>
    cases List.mem_singleton.1 he
    exact .here _ (.scalar s) _
  | mapping keys values =>
    cases List.mem_singleton.1 he
    exact .here _ (.mapping _) _

private theorem culprit_of_mem_mappingFaults {q : AnyKind} {r : Record σ} (hq : q.Takes r)
    (h : ∀ k f, (k, f) ∈ r.fields.toList →
      ∀ x, DistinctKeys x → ∀ e ∈ f.kind.faults x, Culprit ⟨f.kind⟩ x e)
    {x : Node} (hx : DistinctKeys x) {e : BindFault} (he : e ∈ mappingFaults r.fields.faults x) :
    Culprit q x e := by
  cases hx with
  | @mapping es hkeys hvalues =>
    rw [mappingFaults, List.mem_flatMap] at he
    obtain ⟨⟨k, y⟩, hy, he⟩ := he
    obtain ⟨e', he', rfl⟩ := List.mem_map.1 he
    have hnode := NodePath.follow_key hkeys hy
    simp only [Fields.faults_eq] at he'
    cases hf : r.fields.find? k with
    | none =>
      -- the key itself is the culprit, and the record to blame is the one here
      rw [hf] at he'
      cases List.mem_singleton.1 he'
      refine ⟨y, hnode, [], k, es, r.fields.keys, rfl, rfl, List.mem_map_of_mem hy, hq.keys, ?_⟩
      exact Fields.not_mem_keys_of_find? hf
    | some f =>
      rw [hf] at he'
      refine (h k f (Fields.mem_of_find? hf) y (hvalues _ hy) e' he').under hnode ?_
      rw [hq.step, hf]
      rfl
  | null => cases he
  | scalar s =>
    cases List.mem_singleton.1 he
    exact .here _ (.scalar s) _
  | sequence hitems =>
    cases List.mem_singleton.1 he
    exact .here _ (.sequence _) _

private theorem Kind.culprit (kind : Kind α) {x : Node} (hx : DistinctKeys x) {e : BindFault}
    (he : e ∈ kind.faults x) : Culprit ⟨kind⟩ x e := by
  -- over a record it is said of every kind that takes it, since three kinds of fields do
  induction kind using Kind.induction (P := fun r => ∀ q : AnyKind, q.Takes r → ∀ x, DistinctKeys x →
    ∀ e ∈ r.faults x, Culprit q x e) generalizing x e with
  | record r ih =>
    rename_i q hq x hx e he
    rw [r.faults_eq] at he
    exact culprit_of_mem_mappingFaults hq (fun k f hf x hx e he => ih k f hf hx he) hx he
  | scalar t =>
    rw [Kind.faults] at he
    exact ScalarType.culprit he
  | scalars t =>
    rw [Kind.faults] at he
    exact culprit_of_mem_sequenceFaults (fun _ => rfl) (fun _ _ _ => ScalarType.culprit) hx he
  | ofRecord r ih =>
    rw [Kind.faults] at he
    exact ih _ ⟨rfl, fun _ => rfl⟩ x hx e he
  | ofOptionalRecord r ih =>
    rw [Kind.faults] at he
    exact ih _ ⟨rfl, fun _ => rfl⟩ x hx e he
  | ofRecords r ih =>
    rw [Kind.faults] at he
    exact culprit_of_mem_sequenceFaults (fun _ => rfl) (ih _ ⟨rfl, fun _ => rfl⟩) hx he

/-- If `bind` fails with `e` on a section with `DistinctKeys`, then `e.path` leads to the `Culprit`. -/
theorem Record.culprit_of_error_bind (r : Record σ) (s : σ) {x : Node} (hx : DistinctKeys x)
    {e : BindFault} (he : (r.bind s x).error = some e) : Culprit ⟨.record r⟩ x e := by
  have hfirst : firstFault [] (r.faults x) = some e := (r.error_bindUnder [] s x).symm.trans he
  rw [firstFault, Option.map_eq_some_iff] at hfirst
  obtain ⟨e', hhead, rfl⟩ := hfirst
  have hmem : e' ∈ (Kind.record r).faults x := by
    rw [Kind.faults]
    exact List.mem_of_head? hhead
  exact Kind.culprit (.record r) hx hmem

/-- Rules of which the second has a severity that is none. -/
def loudRules : Node :=
  .mapping [("prefixes", .sequence
    [.mapping [("name", .scalar "a")], .mapping [("name", .scalar "b"), ("severity", .scalar "loud")]])]

private theorem distinctKeys_loudRules : DistinctKeys loudRules := by
  have hfirst : DistinctKeys (.mapping [("name", .scalar "a")]) := by
    refine .mapping (by decide) ?_
    simp [DistinctKeys.scalar]
  have hsecond : DistinctKeys (.mapping [("name", .scalar "b"), ("severity", .scalar "loud")]) := by
    refine .mapping (by decide) ?_
    simp [DistinctKeys.scalar]
  refine .mapping (by decide) ?_
  simp only [List.forall_mem_cons, List.not_mem_nil, false_implies, implies_true, and_true]
  refine .sequence ?_
  simp only [List.forall_mem_cons, List.not_mem_nil, false_implies, implies_true, and_true]
  exact ⟨hfirst, hsecond⟩

theorem culprit_loudRules : Culprit ⟨.record Check.Prefixes.Settings.record⟩ loudRules
    ⟨[.key "prefixes", .index 1, .key "severity"], .unreadable "loud" "severity" "unknown severity 'loud'"⟩ :=
  Record.culprit_of_error_bind Check.Prefixes.Settings.record .default distinctKeys_loudRules rfl

end DatasetLint.Binding
