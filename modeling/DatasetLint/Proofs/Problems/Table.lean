import DatasetLint.ProblemTable
import Mathlib.Data.List.Sort

/-!
# What a table holds

A table of problems is told by its resources and by the problems of each. Recording findings puts those
about a resource behind the ones that it had, and leaves all other resources alone. Filtering keeps the
problems of a resource in order, and is the same as recording anew what is kept.
-/

namespace DatasetLint

/-- The problems of the findings `fs` about `resource`, in order. -/
def Finding.about (resource : String) (fs : List Finding) : List Problem :=
  (fs.filter (·.resource = resource)).map (·.problem)

@[simp] theorem Finding.about_nil (resource : String) : about resource [] = [] := rfl

@[simp] theorem Finding.about_append (resource : String) (fs gs : List Finding) :
    about resource (fs ++ gs) = about resource fs ++ about resource gs := by
  simp [about]

theorem Finding.about_cons (resource : String) (f : Finding) (fs : List Finding) :
    about resource (f :: fs) = (if f.resource = resource then [f.problem] else []) ++ about resource fs := by
  by_cases h : f.resource = resource
  · simp [about, h]
  · simp [about, h]

/-- The findings of `b` are about `b.1` and no other resource. -/
theorem Finding.about_bucket (resource : String) (b : Bucket) :
    about resource (b.2.map (⟨b.1, ·⟩)) = if b.1 = resource then b.2 else [] := by
  induction b.2 with
  | nil => simp
  | cons p ps ih =>
    rw [List.map_cons, about_cons, ih]
    split <;> rfl

namespace Bucket

/-- The problems of `resource` in the buckets `bs`, none if it is not there. -/
def problems (bs : List Bucket) (resource : String) : List Problem := (bs.lookup resource).getD []

private theorem problems_cons (b : Bucket) (bs : List Bucket) (resource : String) :
    problems (b :: bs) resource = if b.1 = resource then b.2 else problems bs resource := by
  obtain ⟨r, ps⟩ := b
  by_cases h : r = resource
  · subst h
    simp [problems]
  · have hbeq : (resource == r) = false := beq_eq_false_iff_ne.2 fun e => h e.symm
    simp [problems, List.lookup_cons, hbeq, h]

/-- A `resource` that is the key of no bucket has no `problems`. -/
theorem problems_eq_nil {bs : List Bucket} {resource : String} (h : ∀ b ∈ bs, b.1 ≠ resource) :
    problems bs resource = [] := by
  induction bs with
  | nil => rfl
  | cons b bs ih =>
    rw [problems_cons, if_neg (h b (List.mem_cons_self ..))]
    exact ih fun c hc => h c (List.mem_cons_of_mem _ hc)

private theorem problems_of_mem {bs : List Bucket} (h : Increasing bs) {b : Bucket} (hb : b ∈ bs) :
    problems bs b.1 = b.2 := by
  induction bs with
  | nil => cases hb
  | cons c bs ih =>
    obtain ⟨hc, hbs⟩ := List.pairwise_cons.1 h
    rw [problems_cons]
    rcases List.mem_cons.1 hb with rfl | hb
    · rw [if_pos rfl]
    · rw [if_neg (Std.ne_of_lt (hc b hb))]
      exact ih hbs hb

private theorem problems_modify (resource : String) (change : List Problem → List Problem) {bs : List Bucket}
    (h : Increasing bs) (q : String) : problems (modify resource change bs) q =
      if resource = q then change (problems bs q) else problems bs q := by
  induction bs with
  | nil => rw [modify, problems_cons]; rfl
  | cons b bs ih =>
    obtain ⟨hb, hbs⟩ := List.pairwise_cons.1 h
    simp only [modify]
    split
    · rename_i heq
      simp only [problems_cons, heq]
      split <;> rfl
    · rename_i hne
      split
      · rename_i hlt
        -- the buckets behind a smaller resource have none of its problems
        have hnone : problems (b :: bs) resource = [] := by
          refine problems_eq_nil fun c hc => ?_
          rcases List.mem_cons.1 hc with rfl | hc
          · exact fun e => hne e.symm
          · exact fun e => String.lt_irrefl resource (String.lt_trans hlt (e ▸ hb c hc))
        rw [problems_cons]
        by_cases hq : resource = q
        · subst hq
          simp only [if_true, hnone]
        · simp only [if_neg hq]
      · simp only [problems_cons, ih hbs]
        by_cases hbq : b.1 = q
        · have hq : ¬resource = q := fun e => hne (e.trans hbq.symm)
          simp only [if_pos hbq, if_neg hq]
        · simp only [if_neg hbq]

private theorem mem_keys_modify (resource : String) (change : List Problem → List Problem) (bs : List Bucket)
    (q : String) :
    q ∈ (modify resource change bs).map (·.1) ↔ q = resource ∨ q ∈ bs.map (·.1) := by
  induction bs with
  | nil => simp [modify]
  | cons b bs ih =>
    simp only [modify]
    split
    · rename_i heq
      simp [heq]
    · split
      · simp
      · simp only [List.map_cons, List.mem_cons, ih]
        exact or_left_comm

private theorem problems_filterMap {bs : List Bucket} (h : Increasing bs) (keep : String → Problem → Bool)
    (r : String) : problems (bs.filterMap (ProblemTable.keepBucket keep)) r =
      (problems bs r).filter (keep r) := by
  induction bs with
  | nil => rfl
  | cons b bs ih =>
    obtain ⟨hb, hbs⟩ := List.pairwise_cons.1 h
    rw [problems_cons]
    by_cases hr : b.1 = r
    · subst hr
      -- the problems of this resource are in this bucket, or nowhere
      have hrest : problems bs b.1 = [] := problems_eq_nil fun c hc => (Std.ne_of_lt (hb c hc)).symm
      rw [if_pos rfl, List.filterMap_cons, ProblemTable.keepBucket]
      by_cases hkept : (b.2.filter (keep b.1)).isEmpty
      · rw [if_pos hkept]
        simp only [ih hbs, hrest, List.filter_nil]
        exact (List.isEmpty_iff.1 hkept).symm
      · rw [if_neg hkept]
        simp only [problems_cons, if_true]
    · rw [if_neg hr, List.filterMap_cons, ProblemTable.keepBucket]
      by_cases hkept : (b.2.filter (keep b.1)).isEmpty
      · rw [if_pos hkept]
        exact ih hbs
      · rw [if_neg hkept]
        simp only [problems_cons, if_neg hr, ih hbs]

/-- A `resource` behind all keys of `bs` gets the last bucket. -/
theorem modify_append {resource : String} {change : List Problem → List Problem} {bs : List Bucket}
    (h : ∀ b ∈ bs, b.1 < resource) : modify resource change bs = bs ++ [(resource, change [])] := by
  induction bs with
  | nil => rfl
  | cons b bs ih =>
    rw [List.forall_mem_cons] at h
    have hne : resource ≠ b.1 := fun e => String.lt_irrefl _ (e ▸ h.1)
    have hge : ¬resource < b.1 := String.lt_asymm h.1
    rw [modify, if_neg hne, if_neg hge, ih h.2]
    rfl

/-- Buckets with the same keys and the same `problems` of each are the same. -/
theorem eq_of_problems {bs cs : List Bucket} (hb : Increasing bs) (hc : Increasing cs)
    (hkeys : bs.map (·.1) = cs.map (·.1)) (hproblems : ∀ r, problems bs r = problems cs r) : bs = cs := by
  induction bs generalizing cs with
  | nil =>
    cases cs with
    | nil => rfl
    | cons c cs => cases hkeys
  | cons b bs ih =>
    cases cs with
    | nil => cases hkeys
    | cons c cs =>
      obtain ⟨hb', hbs⟩ := List.pairwise_cons.1 hb
      obtain ⟨hc', hcs⟩ := List.pairwise_cons.1 hc
      simp only [List.map_cons, List.cons.injEq] at hkeys
      obtain ⟨hfirst, hrest⟩ := hkeys
      -- no later bucket has the key of the first ones
      have hsecond : b.2 = c.2 := by
        have := hproblems b.1
        rwa [problems_cons, problems_cons, if_pos rfl, if_pos hfirst.symm] at this
      have htail : bs = cs := by
        refine ih hbs hcs hrest fun r => ?_
        by_cases hr : b.1 = r
        · subst hr
          rw [problems_eq_nil fun d hd => (Std.ne_of_lt (hb' d hd)).symm,
            problems_eq_nil fun d hd e => Std.ne_of_lt (hc' d hd) (hfirst.symm.trans e.symm)]
        · have := hproblems r
          rwa [problems_cons, problems_cons, if_neg hr, if_neg fun e => hr (hfirst.trans e)] at this
      rw [htail, Prod.ext hfirst hsecond]

end Bucket

namespace ProblemTable

/-- The resources of `s` in order, with or without problems. -/
def resources (s : ProblemTable) : List String := s.buckets.map (·.1)

theorem mem_resources {s : ProblemTable} {r : String} : r ∈ s.resources ↔ ∃ b ∈ s.buckets, b.1 = r := by
  simp [resources]

theorem increasing_resources (s : ProblemTable) : s.resources.Pairwise (· < ·) :=
  List.pairwise_map.2 s.increasing

/-- A table is told by its `resources` and by what `get` has of each. -/
theorem ext_get {s t : ProblemTable} (hresources : ∀ r, r ∈ s.resources ↔ r ∈ t.resources)
    (hget : ∀ r, s.get r = t.get r) : s = t := by
  have hkeys : s.resources = t.resources :=
    s.increasing_resources.eq_of_mem_iff t.increasing_resources hresources
  have hbuckets : s.buckets = t.buckets := Bucket.eq_of_problems s.increasing t.increasing hkeys hget
  cases s
  cases t
  cases hbuckets
  rfl

/-! ## Recording -/

@[simp] theorem get_empty (r : String) : empty.get r = [] := rfl

theorem get_push (s : ProblemTable) (resource : String) (p : Problem) (r : String) :
    (s.push resource p).get r = s.get r ++ if resource = r then [p] else [] := by
  have h := Bucket.problems_modify resource (· ++ [p]) s.increasing r
  rw [show (s.push resource p).get r = _ from h]
  by_cases hr : resource = r
  · rw [if_pos hr, if_pos hr]
    rfl
  · rw [if_neg hr, if_neg hr, List.append_nil]
    rfl

@[simp] theorem record_nil (s : ProblemTable) : s.record [] = s := rfl

@[simp] theorem record_cons (s : ProblemTable) (f : Finding) (fs : List Finding) :
    s.record (f :: fs) = (s.push f.resource f.problem).record fs := rfl

theorem record_append (s : ProblemTable) (fs gs : List Finding) :
    s.record (fs ++ gs) = (s.record fs).record gs := by
  rw [record, List.foldl_append]
  rfl

/-- `record fs` puts the problems of `fs` about `r` behind what `s` had of it. -/
theorem get_record (s : ProblemTable) (fs : List Finding) (r : String) :
    (s.record fs).get r = s.get r ++ Finding.about r fs := by
  induction fs generalizing s with
  | nil => simp
  | cons f fs ih =>
    rw [record_cons, ih, get_push, Finding.about_cons, List.append_assoc]

private theorem mem_resources_push {s : ProblemTable} {resource : String} {p : Problem} {r : String} :
    r ∈ (s.push resource p).resources ↔ r = resource ∨ r ∈ s.resources :=
  Bucket.mem_keys_modify resource (· ++ [p]) s.buckets r

private theorem mem_resources_record {s : ProblemTable} {fs : List Finding} {r : String} :
    r ∈ (s.record fs).resources ↔ r ∈ s.resources ∨ Finding.about r fs ≠ [] := by
  induction fs generalizing s with
  | nil => simp
  | cons f fs ih =>
    rw [record_cons, ih, mem_resources_push, Finding.about_cons]
    by_cases h : f.resource = r
    · simp [h]
    · simp [h, Ne.symm h]

/-! ## All problems of a table -/

private theorem about_toList (s : ProblemTable) (r : String) : Finding.about r s.toList = s.get r := by
  have h : ∀ bs : List Bucket, Increasing bs →
      Finding.about r (bs.flatMap fun b => b.2.map (⟨b.1, ·⟩)) = Bucket.problems bs r := by
    intro bs hbs
    induction bs with
    | nil => rfl
    | cons b bs ih =>
      obtain ⟨hb, hbs⟩ := List.pairwise_cons.1 hbs
      rw [List.flatMap_cons, Finding.about_append, ih hbs, Finding.about_bucket, Bucket.problems_cons]
      by_cases hr : b.1 = r
      · subst hr
        rw [if_pos rfl, if_pos rfl,
          Bucket.problems_eq_nil fun c hc => (Std.ne_of_lt (hb c hc)).symm, List.append_nil]
      · rw [if_neg hr, if_neg hr, List.nil_append]
  exact h s.buckets s.increasing

private theorem mem_toList {s : ProblemTable} {f : Finding} : f ∈ s.toList ↔ f.problem ∈ s.get f.resource := by
  rw [← about_toList]
  obtain ⟨r, p⟩ := f
  simp only [Finding.about, List.mem_map, List.mem_filter, decide_eq_true_eq]
  constructor
  · intro h
    exact ⟨_, ⟨h, rfl⟩, rfl⟩
  · rintro ⟨⟨r', p'⟩, ⟨h, hr⟩, hp⟩
    cases hr
    cases hp
    exact h

/-- `push` loses nothing and adds only `p`. -/
theorem toList_push_perm (s : ProblemTable) (resource : String) (p : Problem) :
    (s.push resource p).toList.Perm (s.toList ++ [⟨resource, p⟩]) := by
  have h : ∀ bs : List Bucket,
      ((Bucket.modify resource (· ++ [p]) bs).flatMap fun b => b.2.map (⟨b.1, ·⟩)).Perm
        ((bs.flatMap fun b => b.2.map (⟨b.1, ·⟩)) ++ [(⟨resource, p⟩ : Finding)]) := by
    intro bs
    induction bs with
    | nil => simp [Bucket.modify]
    | cons b bs ih =>
      simp only [Bucket.modify]
      split
      · rename_i heq
        simp only [List.flatMap_cons, List.map_append, List.map_cons, List.map_nil, List.append_assoc, heq]
        exact List.Perm.append_left _ List.perm_append_comm
      · split
        · simp only [List.nil_append, List.flatMap_cons, List.map_cons, List.map_nil]
          exact List.perm_append_comm
        · simp only [List.flatMap_cons, List.append_assoc]
          exact List.Perm.append_left _ ih
  exact h s.buckets

theorem toList_record_perm (s : ProblemTable) (fs : List Finding) :
    (s.record fs).toList.Perm (s.toList ++ fs) := by
  induction fs generalizing s with
  | nil => simp
  | cons f fs ih =>
    rw [record_cons]
    refine (ih _).trans ?_
    have := (s.toList_push_perm f.resource f.problem).append_right fs
    simpa using this

/-- `ofList` makes `s` again of its own `buckets`. -/
theorem ofList_buckets (s : ProblemTable) : ofList s.buckets = s := by
  -- a bucket with a greater key than all others is put at the end
  have hfold : ∀ (bs : List Bucket) (t : ProblemTable), Increasing (t.buckets ++ bs) →
      (bs.foldl (fun t b => t.put b.1 b.2) t).buckets = t.buckets ++ bs := by
    intro bs
    induction bs with
    | nil => simp
    | cons b bs ih =>
      intro t h
      have hput : (t.put b.1 b.2).buckets = t.buckets ++ [b] :=
        Bucket.modify_append fun c hc => (List.pairwise_append.1 h).2.2 c hc b (List.mem_cons_self ..)
      rw [List.foldl_cons, ih, hput, List.append_assoc, List.singleton_append]
      rwa [hput, List.append_assoc]
  have h : (ofList s.buckets).buckets = s.buckets := hfold s.buckets .empty s.increasing
  obtain ⟨bs, hbs⟩ := s
  generalize ofList bs = t at h
  obtain ⟨bs', hbs'⟩ := t
  cases h
  rfl

/-! ## Filtering -/

theorem get_filter (keep : String → Problem → Bool) (s : ProblemTable) (r : String) :
    (s.filter keep).get r = (s.get r).filter (keep r) :=
  Bucket.problems_filterMap s.increasing keep r

/-- What `get` has of `r` stands in a bucket of `s`. -/
theorem mem_resources_of_mem_get {s : ProblemTable} {r : String} {p : Problem} (h : p ∈ s.get r) :
    r ∈ s.resources := by
  by_contra hr
  rw [mem_resources] at hr
  have hnil : Bucket.problems s.buckets r = [] := Bucket.problems_eq_nil fun b hb e => hr ⟨b, hb, e⟩
  rw [show s.get r = [] from hnil] at h
  cases h

theorem mem_resources_filter {keep : String → Problem → Bool} {s : ProblemTable} {r : String} :
    r ∈ (s.filter keep).resources ↔ ∃ p ∈ s.get r, keep r p = true := by
  constructor
  · intro h
    obtain ⟨b, hb, rfl⟩ := mem_resources.1 h
    -- no bucket is left empty, so a problem of this one is kept
    obtain ⟨c, -, hkept⟩ := List.mem_filterMap.1 hb
    have hne : b.2 ≠ [] := by
      simp only [keepBucket] at hkept
      split at hkept
      · cases hkept
      · rename_i hne
        cases hkept
        exact fun e => hne (List.isEmpty_iff.2 e)
    obtain ⟨p, hp⟩ := List.exists_mem_of_ne_nil b.2 hne
    have hmem : (⟨b.1, p⟩ : Finding) ∈ (s.filter keep).toList :=
      List.mem_flatMap.2 ⟨b, hb, List.mem_map.2 ⟨p, hp, rfl⟩⟩
    rw [mem_toList, get_filter, List.mem_filter] at hmem
    exact ⟨p, hmem⟩
  · rintro ⟨p, hp, hkeep⟩
    refine mem_resources_of_mem_get (p := p) ?_
    rw [get_filter, List.mem_filter]
    exact ⟨hp, hkeep⟩

/-- To `filter` is to record anew what is to `keep`. -/
theorem filter_eq_record (keep : String → Problem → Bool) (s : ProblemTable) :
    s.filter keep = empty.record (s.toList.filter fun f => keep f.resource f.problem) := by
  have habout : ∀ r, Finding.about r (s.toList.filter fun f => keep f.resource f.problem) =
      (s.get r).filter (keep r) := by
    intro r
    rw [← about_toList, Finding.about, Finding.about, List.filter_filter, List.filter_map, List.filter_filter]
    congr 1
    refine List.filter_congr fun f _ => ?_
    by_cases hr : f.resource = r
    · subst hr
      simp
    · simp [hr]
  refine ext_get (fun r => ?_) fun r => ?_
  · rw [mem_resources_filter, mem_resources_record, habout, ne_eq, List.filter_eq_nil_iff]
    simp [resources, empty]
  · rw [get_filter, get_record, habout, get_empty, List.nil_append]

theorem filter_filter (keep keep' : String → Problem → Bool) (s : ProblemTable) :
    (s.filter keep).filter keep' = s.filter fun r p => keep r p && keep' r p := by
  refine ext_get (fun r => ?_) fun r => ?_
  · simp only [mem_resources_filter, get_filter, List.mem_filter, Bool.and_eq_true, and_assoc]
  · simp only [get_filter, List.filter_filter]
    exact List.filter_congr fun p _ => Bool.and_comm _ _

theorem filter_push (keep : String → Problem → Bool) (s : ProblemTable) (resource : String) (p : Problem) :
    (s.push resource p).filter keep =
      if keep resource p then (s.filter keep).push resource p else s.filter keep := by
  -- of the resource's problems the new one is the last, if it is kept at all
  have hget : ∀ r, ((s.push resource p).get r).filter (keep r) = (s.get r).filter (keep r) ++
      if resource = r ∧ keep resource p = true then [p] else [] := by
    intro r
    rw [get_push, List.filter_append]
    by_cases hr : resource = r
    · subst hr
      cases hkeep : keep resource p <;> simp [hkeep]
    · simp [hr]
  split
  · rename_i hkeep
    refine ext_get (fun r => ?_) fun r => ?_
    · rw [mem_resources_push, mem_resources_filter, mem_resources_filter]
      simp only [get_push, List.mem_append]
      grind
    · rw [get_filter, hget, get_push, get_filter]
      simp [hkeep]
  · rename_i hkeep
    refine ext_get (fun r => ?_) fun r => ?_
    · rw [mem_resources_filter, mem_resources_filter]
      simp only [get_push, List.mem_append]
      grind
    · rw [get_filter, hget, get_filter]
      simp [hkeep]

private theorem toList_filter (keep : String → Problem → Bool) (s : ProblemTable) :
    (s.filter keep).toList = s.toList.filter fun f => keep f.resource f.problem := by
  have h : ∀ bs : List Bucket,
      (bs.filterMap (keepBucket keep)).flatMap (fun b => b.2.map (Finding.mk b.1)) =
        (bs.flatMap fun b => b.2.map (Finding.mk b.1)).filter fun f => keep f.resource f.problem := by
    intro bs
    induction bs with
    | nil => rfl
    | cons b bs ih =>
      have hb : (b.2.map (Finding.mk b.1)).filter (fun f => keep f.resource f.problem) =
          (b.2.filter (keep b.1)).map (Finding.mk b.1) := by
        rw [List.filter_map]
        rfl
      rw [List.flatMap_cons, List.filter_append, hb, ← ih, List.filterMap_cons, keepBucket]
      by_cases hkept : (b.2.filter (keep b.1)).isEmpty
      · rw [if_pos hkept, List.isEmpty_iff.1 hkept]
        rfl
      · rw [if_neg hkept]
        rfl
  exact h s.buckets

/-! ## Counting -/

theorem map_problem_toList (s : ProblemTable) : s.toList.map (·.problem) = s.buckets.flatMap (·.2) := by
  rw [toList, List.map_flatMap]
  refine List.flatMap_congr fun b _ => ?_
  rw [List.map_map]
  exact List.map_id' _

/-- `count v` counts the problems of severity `v` in the `buckets`. -/
theorem count_eq_countP (s : ProblemTable) (v : Severity) :
    s.count v = (s.buckets.flatMap (·.2)).countP fun p => p.severity == v := by
  rw [← map_problem_toList, List.countP_map]
  rfl

theorem get_of_mem_buckets {s : ProblemTable} {b : Bucket} (h : b ∈ s.buckets) : s.get b.1 = b.2 :=
  Bucket.problems_of_mem s.increasing h

/-- `toList` goes through the `resources` and, for each, through what `get` has of it. -/
theorem toList_eq_flatMap_get (s : ProblemTable) :
    s.toList = s.resources.flatMap (fun r => (s.get r).map (Finding.mk r)) := by
  rw [toList, resources, List.flatMap_map]
  exact List.flatMap_congr fun b hb => by rw [get_of_mem_buckets hb]

private theorem resourceCount_eq (s : ProblemTable) :
    s.resourceCount = (s.resources.filter fun r => !(s.get r).isEmpty).length := by
  rw [resourceCount, resources, ← List.countP_eq_length_filter, List.countP_map]
  refine List.countP_congr fun b hb => ?_
  simp [get_of_mem_buckets hb]

/-- If every resource with problems in `s` has some in `t`, then `s` counts no more of them. -/
theorem resourceCount_le_of_get {s t : ProblemTable} (h : ∀ r, s.get r ≠ [] → t.get r ≠ []) :
    s.resourceCount ≤ t.resourceCount := by
  rw [resourceCount_eq, resourceCount_eq]
  have hnodup : (s.resources.filter fun r => !(s.get r).isEmpty).Nodup :=
    List.Nodup.filter _ (s.increasing_resources.imp Std.ne_of_lt)
  refine (List.subperm_of_subset hnodup fun r hr => ?_).length_le
  simp only [List.mem_filter, Bool.not_eq_true', List.isEmpty_eq_false_iff] at hr ⊢
  obtain ⟨p, hp⟩ := List.exists_mem_of_ne_nil _ (h r hr.2)
  exact ⟨mem_resources_of_mem_get hp, h r hr.2⟩

theorem count_filter_le {keep keep' : String → Problem → Bool} (h : ∀ r p, keep' r p = true → keep r p = true)
    (s : ProblemTable) (v : Severity) : (s.filter keep').count v ≤ (s.filter keep).count v := by
  rw [count, count, toList_filter, toList_filter, List.countP_filter, List.countP_filter]
  refine List.countP_mono_left fun f _ hf => ?_
  simp only [Bool.and_eq_true] at hf ⊢
  exact ⟨hf.1, h _ _ hf.2⟩

theorem resourceCount_filter_le {keep keep' : String → Problem → Bool}
    (h : ∀ r p, keep' r p = true → keep r p = true) (s : ProblemTable) :
    (s.filter keep').resourceCount ≤ (s.filter keep).resourceCount := by
  refine resourceCount_le_of_get fun r hr => ?_
  obtain ⟨p, hp⟩ := List.exists_mem_of_ne_nil _ hr
  rw [get_filter, List.mem_filter] at hp
  refine List.ne_nil_of_mem (a := p) ?_
  rw [get_filter, List.mem_filter]
  exact ⟨hp.1, h _ _ hp.2⟩

end ProblemTable

end DatasetLint
