import DatasetLint.Proofs.Files.Added
import DatasetLint.Proofs.Files.Below

/-!
# Collecting with one more file

A file that is added under the root of a dataset is collected if it is wanted and no directory on the way to
it is hidden. All that was collected without it is collected with it, in the same order. The directories that
are new lie on the way to the file, so that their paths are no longer than that of the file.
-/

namespace DatasetLint.Dataset

open Files

/-- A file under the given names is collected. -/
def isCollected (wanted : List String) : List String → Bool
  | [] => false
  | [n] => isWanted wanted n
  | n :: ns => !isHidden n && isCollected wanted ns

/-- If `path` leads to nothing in `s`, it leads to nothing in `s'`. -/
def StaysMissing (s s' : FileSystem) (path : String) : Prop :=
  s.entry path = .error .notFound → s'.entry path = .error .notFound

variable {s s' : FileSystem} {wanted : List String}

/-! ## What was collected is collected still -/

/-- A link to a directory is one in both trees, or else is collected in neither or both. -/
theorem filesAt_link_eq (hdirectory : ∀ p, StaysMissing s s' p → s'.isDirectory p = s.isDirectory p)
    {directory n t : String}
    (hmissing : ∀ ns ∈ filesAt s wanted directory n (.link t), StaysMissing s s' (pathOf directory ns)) :
    filesAt s' wanted directory n (.link t) = filesAt s wanted directory n (.link t) := by
  rw [filesAt] at hmissing
  rw [filesAt, filesAt]
  cases hd : s.isDirectory (Path.join directory n) with
  | true =>
    have hstays : StaysMissing s s' (Path.join directory n) := by
      intro h
      rw [FileSystem.isDirectory, h] at hd
      cases hd
    rw [hdirectory _ hstays, hd]
  | false =>
    rw [hd] at hmissing
    cases hw : isWanted wanted n with
    | false => simp
    | true =>
      rw [hw] at hmissing
      have hstays : StaysMissing s s' (Path.join directory n) := hmissing [n] (List.mem_singleton.2 rfl)
      rw [hdirectory _ hstays, hd]

mutual

private theorem filesAt_eq (hdirectory : ∀ p, StaysMissing s s' p → s'.isDirectory p = s.isDirectory p)
    {directory n : String} : ∀ {e : Entry},
    (∀ ns ∈ filesAt s wanted directory n e, StaysMissing s s' (pathOf directory ns)) →
      filesAt s' wanted directory n e = filesAt s wanted directory n e
  | .directory es, hmissing => by
    rw [filesAt] at hmissing
    rw [filesAt, filesAt]
    split
    · rfl
    · rename_i hhidden
      rw [if_neg hhidden] at hmissing
      rw [filesIn_eq hdirectory fun ns hns => hmissing (n :: ns) (List.mem_map_of_mem hns)]
  | .link t, hmissing => filesAt_link_eq hdirectory hmissing
  | .file c, _ => by rw [filesAt, filesAt]

private theorem filesIn_eq (hdirectory : ∀ p, StaysMissing s s' p → s'.isDirectory p = s.isDirectory p)
    {directory : String} : ∀ {es : List (String × Entry)},
    (∀ ns ∈ filesIn s wanted directory es, StaysMissing s s' (pathOf directory ns)) →
      filesIn s' wanted directory es = filesIn s wanted directory es
  | [], _ => rfl
  | (n, e) :: es, hmissing => by
    rw [filesIn] at hmissing
    rw [filesIn, filesIn, filesAt_eq hdirectory fun ns hns => hmissing ns (List.mem_append_left _ hns),
      filesIn_eq hdirectory fun ns hns => hmissing ns (List.mem_append_right _ hns)]

end

/-! ## What is collected besides -/

/-- The `names` of a file that is added, if it is collected. -/
def collected (wanted names : List String) : List (List String) :=
  if isCollected wanted names then [names] else []

private theorem collected_cons (wanted : List String) (n m : String) (ms : List String) :
    collected wanted (n :: m :: ms) =
      if isHidden n then [] else (collected wanted (m :: ms)).map (n :: ·) := by
  rw [collected, collected, isCollected.eq_3 _ _ _ (List.cons_ne_nil _ _)]
  cases isHidden n with
  | true => rfl
  | false => cases isCollected wanted (m :: ms) <;> rfl

/-- What stands for a name, `o` if anything, with a file further down. -/
def grown (c : ByteArray) (ns : Location) (o : Option Entry) : Entry := (o.getD (.directory [])).put ns (.file c)

theorem put_directory (es : List (String × Entry)) (n : String) (ns : Location) (c : ByteArray) :
    (Entry.directory es).put (n :: ns) (.file c) = .directory (Entry.alter n (grown c ns) es) := rfl

/-- A `change` of what `n` stands for changes the collected files by those that it changes there. -/
theorem filesIn_alter_perm (hdirectory : ∀ p, StaysMissing s s' p → s'.isDirectory p = s.isDirectory p)
    {directory n : String} {change : Option Entry → Entry} {added : List (List String)}
    {es : List (String × Entry)}
    (hmissing : ∀ ns ∈ filesIn s wanted directory es, StaysMissing s s' (pathOf directory ns))
    (hnone : es.lookup n = none → (filesAt s' wanted directory n (change none)).Perm added)
    (hsome : ∀ e, es.lookup n = some e → (∀ ns ∈ filesAt s wanted directory n e, StaysMissing s s' (pathOf directory ns)) →
      (filesAt s' wanted directory n (change (some e))).Perm (added ++ filesAt s wanted directory n e)) :
    (filesIn s' wanted directory (Entry.alter n change es)).Perm (added ++ filesIn s wanted directory es) := by
  induction es with
  | nil =>
    rw [Entry.alter, filesIn, filesIn, filesIn, List.append_nil, List.append_nil]
    exact hnone rfl
  | cons b es ih =>
    obtain ⟨m, e⟩ := b
    rw [filesIn] at hmissing
    have hhead : ∀ ns ∈ filesAt s wanted directory m e, StaysMissing s s' (pathOf directory ns) :=
      fun ns hns => hmissing ns (List.mem_append_left _ hns)
    have htail : ∀ ns ∈ filesIn s wanted directory es, StaysMissing s s' (pathOf directory ns) :=
      fun ns hns => hmissing ns (List.mem_append_right _ hns)
    rw [Entry.alter, filesIn]
    -- the name is altered where it comes first, and the entries before it keep their files
    by_cases hm : m = n
    · subst hm
      rw [if_pos rfl, filesIn, filesIn_eq hdirectory htail, ← List.append_assoc]
      exact (hsome e List.lookup_cons_self hhead).append_right _
    · have hlookup : ((m, e) :: es).lookup n = es.lookup n := by
        rw [List.lookup_cons, beq_eq_false_iff_ne.2 (Ne.symm hm)]
      rw [hlookup] at hnone hsome
      rw [if_neg hm, filesIn, filesAt_eq hdirectory hhead]
      refine ((ih htail hnone hsome).append_left _).trans ?_
      rw [← List.append_assoc, ← List.append_assoc]
      exact List.perm_append_comm.append_right _

/-- With a file that is added under `n :: ns` the same files are collected, and the file itself if it is wanted. -/
theorem filesIn_put_perm (hdirectory : ∀ p, StaysMissing s s' p → s'.isDirectory p = s.isDirectory p)
    {directory n : String} {ns : Location} {c : ByteArray} {es : List (String × Entry)}
    (hadd : (Entry.directory es).CanAdd (n :: ns))
    (hmissing : ∀ ns ∈ filesIn s wanted directory es, StaysMissing s s' (pathOf directory ns)) :
    (filesIn s' wanted directory (Entry.alter n (grown c ns) es)).Perm
      (collected wanted (n :: ns) ++ filesIn s wanted directory es) := by
  induction ns generalizing directory n es with
  | nil =>
    refine filesIn_alter_perm hdirectory hmissing (fun _ => ?_) fun e he => absurd (hadd e he) e.not_canAdd_nil
    exact .refl _
  | cons m ms ih =>
    -- a directory that is missing is as good as an empty one: both collect nothing before
    have hstep : ∀ fs, (Entry.directory fs).CanAdd (m :: ms) →
        (∀ ns ∈ filesAt s wanted directory n (.directory fs), StaysMissing s s' (pathOf directory ns)) →
        (filesAt s' wanted directory n (.directory (Entry.alter m (grown c ms) fs))).Perm
          (collected wanted (n :: m :: ms) ++ filesAt s wanted directory n (.directory fs)) := by
      intro fs hfs hstays
      rw [filesAt] at hstays
      rw [filesAt, filesAt, collected_cons]
      split
      · exact .refl _
      · rename_i hhidden
        rw [if_neg hhidden] at hstays
        rw [← List.map_append]
        exact (ih hfs fun ns hns => hstays (n :: ns) (List.mem_map_of_mem hns)).map _
    refine filesIn_alter_perm hdirectory hmissing (fun _ => ?_) fun e he hstays => ?_
    · have hempty : filesAt s wanted directory n (.directory []) = [] := by
        rw [filesAt, filesIn, List.map_nil, ite_self]
      have h := hstep [] (Entry.canAdd_empty m ms) (by rw [hempty]; exact nofun)
      rwa [hempty, List.append_nil] at h
    · have hbelow : e.CanAdd (m :: ms) := hadd e he
      obtain ⟨fs, _, _, rfl, -⟩ := hbelow.exists_directory
      exact hstep fs hbelow hstays

/-! ## The directories that are looked into -/

private theorem directoriesIn_subset_alter {n : String} {change : Option Entry → Entry} {es : List (String × Entry)}
    (h : ∀ e, es.lookup n = some e → directoriesAt n e ⊆ directoriesAt n (change (some e))) :
    directoriesIn es ⊆ directoriesIn (Entry.alter n change es) := by
  induction es with
  | nil => exact List.nil_subset _
  | cons b es ih =>
    obtain ⟨m, e⟩ := b
    rw [Entry.alter]
    by_cases hm : m = n
    · subst hm
      rw [if_pos rfl, directoriesIn, directoriesIn]
      exact List.append_subset.2 ⟨List.subset_append_of_subset_left _ (h e List.lookup_cons_self),
        List.subset_append_right ..⟩
    · have hlookup : ((m, e) :: es).lookup n = es.lookup n := by
        rw [List.lookup_cons, beq_eq_false_iff_ne.2 (Ne.symm hm)]
      rw [hlookup] at h
      rw [if_neg hm, directoriesIn, directoriesIn]
      exact List.append_subset.2 ⟨List.subset_append_left .., List.subset_append_of_subset_right _ (ih h)⟩

private theorem mem_directoriesIn_alter {n : String} {change : Option Entry → Entry} {es : List (String × Entry)}
    {d : List String} (hd : d ∈ directoriesIn (Entry.alter n change es)) :
    d ∈ directoriesIn es ∨ d ∈ directoriesAt n (change (es.lookup n)) := by
  induction es with
  | nil =>
    rw [Entry.alter, directoriesIn, directoriesIn, List.append_nil] at hd
    exact .inr hd
  | cons b es ih =>
    obtain ⟨m, e⟩ := b
    rw [Entry.alter] at hd
    rw [directoriesIn, List.mem_append]
    by_cases hm : m = n
    · subst hm
      rw [if_pos rfl, directoriesIn, List.mem_append] at hd
      rw [List.lookup_cons_self]
      exact hd.symm.imp_left .inr
    · rw [if_neg hm, directoriesIn, List.mem_append] at hd
      rw [List.lookup_cons, beq_eq_false_iff_ne.2 (Ne.symm hm)]
      rcases hd with hd | hd
      · exact .inl (.inl hd)
      · exact (ih hd).imp_left .inr

theorem mem_directoriesAt_directory {n : String} {fs : List (String × Entry)} {d : List String} :
    d ∈ directoriesAt n (.directory fs) ↔
      isHidden n = false ∧ (d = [n] ∨ ∃ d' ∈ directoriesIn fs, d = n :: d') := by
  rw [directoriesAt]
  cases isHidden n with
  | true => exact iff_of_false List.not_mem_nil fun h => nomatch h.1
  | false =>
    rw [if_neg Bool.false_ne_true, List.mem_cons, List.mem_map, and_iff_right rfl]
    simp only [eq_comm]

private theorem directoriesAt_subset {n : String} {fs gs : List (String × Entry)}
    (h : directoriesIn fs ⊆ directoriesIn gs) :
    directoriesAt n (.directory fs) ⊆ directoriesAt n (.directory gs) := by
  intro d hd
  obtain ⟨hhidden, hd⟩ := mem_directoriesAt_directory.1 hd
  refine mem_directoriesAt_directory.2 ⟨hhidden, hd.imp_right ?_⟩
  rintro ⟨d', hd', rfl⟩
  exact ⟨d', h hd', rfl⟩

/-- With a file that is added the same directories are looked into. -/
theorem directoriesIn_subset_grown {n : String} {ns : Location} (c : ByteArray) {es : List (String × Entry)}
    (hadd : (Entry.directory es).CanAdd (n :: ns)) :
    directoriesIn es ⊆ directoriesIn (Entry.alter n (grown c ns) es) := by
  induction ns generalizing n es with
  | nil => exact directoriesIn_subset_alter fun e he => absurd (hadd e he) e.not_canAdd_nil
  | cons m ms ih =>
    refine directoriesIn_subset_alter fun e he => ?_
    have hbelow : e.CanAdd (m :: ms) := hadd e he
    obtain ⟨fs, _, _, rfl, -⟩ := hbelow.exists_directory
    exact directoriesAt_subset (ih hbelow)

private theorem directoriesAt_subset_directoriesIn {n : String} {e : Entry} {es : List (String × Entry)}
    (he : es.lookup n = some e) : directoriesAt n e ⊆ directoriesIn es := by
  obtain ⟨before, after, rfl, -⟩ := List.lookup_eq_some_iff.1 he
  intro d hd
  clear he
  induction before with
  | nil => exact List.mem_append_left _ hd
  | cons b before ih => exact List.mem_append_right _ ih

/-- A directory `d` that is looked into besides lies on the way to the file. -/
theorem mem_directoriesIn_grown {n : String} {ns : Location} {c : ByteArray} {es : List (String × Entry)}
    (hadd : (Entry.directory es).CanAdd (n :: ns)) {d : List String}
    (hd : d ∈ directoriesIn (Entry.alter n (grown c ns) es)) : d ∈ directoriesIn es ∨ d <+: n :: ns := by
  -- along the way to the file: what is new at each step is one longer prefix of the way
  induction ns generalizing n es d with
  | nil =>
    refine (mem_directoriesIn_alter hd).imp_right fun h => ?_
    cases hn : es.lookup n with
    | none => rw [hn] at h; cases h
    | some e => exact absurd (hadd e hn) e.not_canAdd_nil
  | cons m ms ih =>
    have hstep : ∀ fs, (Entry.directory fs).CanAdd (m :: ms) →
        d ∈ directoriesAt n (.directory (Entry.alter m (grown c ms) fs)) →
        d ∈ directoriesAt n (.directory fs) ∨ d <+: n :: m :: ms := by
      intro fs hfs hd
      obtain ⟨hhidden, rfl | ⟨d', hd', rfl⟩⟩ := mem_directoriesAt_directory.1 hd
      · exact .inr (List.prefix_append [n] _)
      · refine (ih hfs hd').imp (fun h => ?_) fun h => (List.prefix_cons_inj n).2 h
        exact mem_directoriesAt_directory.2 ⟨hhidden, .inr ⟨d', h, rfl⟩⟩
    rcases mem_directoriesIn_alter hd with hd | hd
    · exact .inl hd
    · cases hn : es.lookup n with
      | none =>
        rw [hn] at hd
        rcases hstep [] (Entry.canAdd_empty m ms) hd with h | h
        · obtain ⟨-, rfl | ⟨_, h, -⟩⟩ := mem_directoriesAt_directory.1 h
          · exact .inr (List.prefix_append [n] _)
          · cases h
        · exact .inr h
      | some e =>
        rw [hn] at hd
        have hbelow : e.CanAdd (m :: ms) := hadd e hn
        obtain ⟨fs, _, _, rfl, -⟩ := hbelow.exists_directory
        exact (hstep fs hbelow hd).imp_left fun h => directoriesAt_subset_directoriesIn hn h

/-- A file whose own path is short enough leaves it as it was whether a directory has too long a path. -/
theorem any_isTooLong_grown {root n : String} {ns : Location} (c : ByteArray) {es : List (String × Entry)}
    (hadd : (Entry.directory es).CanAdd (n :: ns)) (hnames : ∀ m ∈ n :: ns, FileSystem.IsFileName m)
    (hlength : (pathOf root (n :: ns)).utf8ByteSize < FileSystem.pathLimit) :
    (directoriesIn (Entry.alter n (grown c ns) es)).any (isTooLong root) = (directoriesIn es).any (isTooLong root) := by
  rw [Bool.eq_iff_iff, List.any_eq_true, List.any_eq_true]
  constructor
  · rintro ⟨d, hd, hlong⟩
    refine ⟨d, (mem_directoriesIn_grown hadd hd).resolve_right fun hprefix => ?_, hlong⟩
    obtain ⟨rest, hrest⟩ := hprefix
    have hshort : (pathOf root d).utf8ByteSize ≤ (pathOf root (n :: ns)).utf8ByteSize := by
      rw [← hrest, pathOf, pathOf, List.foldl_append]
      exact FileSystem.utf8ByteSize_pathOf_ge fun m hm => hnames m (hrest ▸ List.mem_append_right _ hm)
    rw [isTooLong, decide_eq_true_eq] at hlong
    exact Nat.lt_irrefl _ (Nat.lt_of_le_of_lt (Nat.le_trans hlong hshort) hlength)
  · rintro ⟨d, hd, hlong⟩
    exact ⟨d, directoriesIn_subset_grown c hadd hd, hlong⟩

/-! ## In order -/

/-- The order of files: that of the names on the way to them. -/
def inOrder (a b : List String) : Bool := @decide _ (List.decidableLE a b)

theorem inOrder_iff {a b : List String} : inOrder a b = true ↔ @LE.le _ List.instLE a b :=
  @decide_eq_true_iff _ (List.decidableLE a b)

theorem inOrder_trans (a b c : List String) (hab : inOrder a b = true) (hbc : inOrder b c = true) :
    inOrder a c = true :=
  inOrder_iff.2 (List.le_trans (inOrder_iff.1 hab) (inOrder_iff.1 hbc))

theorem inOrder_total (a b : List String) : (inOrder a b || inOrder b a) = true := by
  rw [Bool.or_eq_true, inOrder_iff, inOrder_iff]
  exact List.le_total a b

theorem mergeSort_eq_of_perm {as bs : List (List String)} (h : as.Perm bs) :
    as.mergeSort inOrder = bs.mergeSort inOrder := by
  have hperm : (as.mergeSort inOrder).Perm (bs.mergeSort inOrder) :=
    (List.mergeSort_perm as _).trans (h.trans (List.mergeSort_perm bs _).symm)
  exact hperm.eq_of_pairwise (fun _ _ _ _ hab hba => List.le_antisymm (inOrder_iff.1 hab) (inOrder_iff.1 hba))
    (List.pairwise_mergeSort inOrder_trans inOrder_total as) (List.pairwise_mergeSort inOrder_trans inOrder_total bs)

theorem list_eq_ok_of_resolve {s : FileSystem} {path : String} {place : Location} {es : List (String × Entry)}
    (h : s.resolve path = .ok (.found place (.directory es))) : s.list path = .ok es := by
  rw [FileSystem.list, FileSystem.entry, h]

variable {root : String} {dir : Location} {es : List (String × Entry)} {names : Location} {c : ByteArray}

theorem files_of_tooLong (hroot : s.resolve root = .ok (.found dir (.directory es)))
    (hlong : (directoriesIn es).any (isTooLong root) = true) : files s root wanted = .error .nameTooLong := by
  rw [files, list_eq_ok_of_resolve hroot]
  dsimp only
  rw [if_pos hlong]

variable (wanted) in
theorem files_of_not_tooLong (hroot : s.resolve root = .ok (.found dir (.directory es)))
    (hshort : (directoriesIn es).any (isTooLong root) = false) :
    files s root wanted = .ok (((filesIn s wanted root es).mergeSort inOrder).map (pathOf root)) := by
  rw [files, list_eq_ok_of_resolve hroot]
  dsimp only
  rw [if_neg (Bool.eq_false_iff.1 hshort)]
  rfl

variable (wanted) in
/-- `files` under `root`, where a file is added below it: the same as without it, and the file between them if it is
wanted. A directory that cannot be looked into is an error with the file and without it. -/
theorem files_put (hroot : s.resolve root = .ok (.found dir (.directory es)))
    (hadd : (Entry.directory es).CanAdd names) (hnames : ∀ n ∈ names, FileSystem.IsFileName n)
    (hlength : (pathOf root names).utf8ByteSize < FileSystem.pathLimit)
    (hmissing : ∀ ps, files s root wanted = .ok ps →
      ∀ p ∈ ps, StaysMissing s (s.put (dir ++ names) (.file c)) p) :
    (files s root wanted = .error .nameTooLong ∧
      files (s.put (dir ++ names) (.file c)) root wanted = .error .nameTooLong) ∨
    ∃ before after, files s root wanted = .ok (before ++ after) ∧
      files (s.put (dir ++ names) (.file c)) root wanted =
        .ok (before ++ (collected wanted names).map (pathOf root) ++ after) := by
  obtain ⟨habove, hroot'⟩ := FileSystem.resolve_put_below (.file c) hroot hadd
  obtain ⟨_, n, ns, ⟨⟩, rfl⟩ := hadd.exists_directory
  rw [put_directory] at hroot'
  have hsame := any_isTooLong_grown c hadd hnames hlength
  cases hshort : (directoriesIn es).any (isTooLong root) with
  | true => exact .inl ⟨files_of_tooLong hroot hshort, files_of_tooLong hroot' (hsame.trans hshort)⟩
  | false =>
    have hfiles := files_of_not_tooLong wanted hroot hshort
    have hfiles' := files_of_not_tooLong wanted hroot' (hsame.trans hshort)
    have hstays : ∀ ms ∈ filesIn s wanted root es,
        StaysMissing s (s.put (dir ++ n :: ns) (.file c)) (pathOf root ms) := fun ms hms =>
      hmissing _ hfiles _ (List.mem_map_of_mem (List.mem_mergeSort.2 hms))
    have hperm := filesIn_put_perm (c := c) (fun p hp => FileSystem.isDirectory_added habove (.file c) hp) hadd hstays
    -- sorting forgets where the new file was met, so it may as well stand in front
    right
    rw [hfiles, hfiles', mergeSort_eq_of_perm hperm, collected]
    split
    · obtain ⟨as, bs, has, hbs, -⟩ := List.mergeSort_cons inOrder_trans inOrder_total (n :: ns)
        (filesIn s wanted root es)
      refine ⟨as.map (pathOf root), bs.map (pathOf root), ?_, ?_⟩
      · rw [hbs, List.map_append]
      · rw [List.singleton_append, has, List.map_append, List.map_cons, List.append_assoc]
        rfl
    · refine ⟨((filesIn s wanted root es).mergeSort inOrder).map (pathOf root), [], ?_, ?_⟩
      · rw [List.append_nil]
      · rw [List.nil_append, List.map_nil, List.append_nil, List.append_nil]

end DatasetLint.Dataset
