import DatasetLint.Proofs.Dataset.Collected
import Mathlib.Data.List.Perm.Basic

/-!
# Collecting step by step

Directories that are still to be looked into are kept by their paths. One of them after the other is listed by
its path, and its entries come in any order. Such a traversal of a tree comes to its end, because no link is
followed, and what it collects does not depend on the order: it ends with the files of the dataset, or at a
directory whose path is too long.
-/

namespace DatasetLint.Dataset

open Files Files.Entry List

/-- The paths of the directories that are still to be looked into, the next one first, and of the files that have
been collected. -/
structure Traversal where
  pending : List String
  collected : List String

namespace Traversal

section

variable (s : FileSystem) (wanted : List String)

/-- An entry of `directory` is met: it is looked into later, collected, or left alone. -/
def meet (directory : String) (t : Traversal) : String × Entry → Traversal
  | (n, .directory _) => if isHidden n then t else { t with pending := Path.join directory n :: t.pending }
  | (n, .link _) =>
    if s.isDirectory (Path.join directory n) then t
    else if isWanted wanted n then { t with collected := t.collected ++ [Path.join directory n] } else t
  | (n, .file _) =>
    if isWanted wanted n then { t with collected := t.collected ++ [Path.join directory n] } else t

/-- The next directory is listed, with its entries in any order, unless it cannot be. -/
inductive Step : Traversal → Except FileFault Traversal → Prop
  | listed {directory pending collected} {es listing : List (String × Entry)} :
      s.list directory = .ok es → listing.Perm es →
      Step ⟨directory :: pending, collected⟩ (.ok (listing.foldl (meet s wanted directory) ⟨pending, collected⟩))
  | failed {directory pending collected e} : s.list directory = .error e →
      Step ⟨directory :: pending, collected⟩ (.error e)

/-- What a traversal ends with. -/
inductive Ends : Traversal → Except FileFault (List String) → Prop
  | done {collected} : Ends ⟨[], collected⟩ (.ok collected)
  | failed {t e} : Step s wanted t (.error e) → Ends t (.error e)
  | step {t t' r} : Step s wanted t (.ok t') → Ends t' r → Ends t r

end

/-! ## What one listing adds -/

variable {s : FileSystem} {wanted : List String} {directory : String}

variable (directory) in
/-- The directory that has to be looked into for an entry of `directory`, if any. -/
def entered : String × Entry → List (String × List (String × Entry))
  | (n, .directory es) => if isHidden n then [] else [(Path.join directory n, es)]
  | (_, .link _) => []
  | (_, .file _) => []

variable (s wanted directory) in
/-- The path that is collected for an entry of `directory`, if any. -/
def taken : String × Entry → List String
  | (_, .directory _) => []
  | (n, .link _) =>
    if s.isDirectory (Path.join directory n) then []
    else if isWanted wanted n then [Path.join directory n] else []
  | (n, .file _) => if isWanted wanted n then [Path.join directory n] else []

private theorem meet_eq (t : Traversal) (b : String × Entry) : meet s wanted directory t b =
    ⟨(entered directory b).map Prod.fst ++ t.pending, t.collected ++ taken s wanted directory b⟩ := by
  obtain ⟨n, e⟩ := b
  cases e with
  | directory es =>
    rw [meet, entered, taken]
    split <;> simp
  | file c =>
    rw [meet, entered, taken]
    split <;> simp
  | link l =>
    rw [meet, entered, taken]
    split
    · simp
    · split <;> simp

private theorem foldl_meet (t : Traversal) (listing : List (String × Entry)) :
    listing.foldl (meet s wanted directory) t =
    ⟨(listing.reverse.flatMap (entered directory)).map Prod.fst ++ t.pending,
      t.collected ++ listing.flatMap (taken s wanted directory)⟩ := by
  induction listing generalizing t with
  | nil => simp
  | cons b listing ih => rw [List.foldl_cons, ih, meet_eq]; simp

/-! ## What is below a directory -/

/-- The paths of a directory and of those below it that are looked into. -/
def lookedInto (b : String × List (String × Entry)) : List String := b.1 :: (directoriesIn b.2).map (pathOf b.1)

variable (s wanted) in
/-- The paths of the files below a directory. -/
def filesBelow (b : String × List (String × Entry)) : List String := (filesIn s wanted b.1 b.2).map (pathOf b.1)

variable (directory) in
/-- Below `directory`, those directories are looked into that are `entered` for its entries. -/
theorem map_directoriesIn (es : List (String × Entry)) :
    (directoriesIn es).map (pathOf directory) = (es.flatMap (entered directory)).flatMap lookedInto := by
  rw [directoriesIn_eq_flatMap, List.map_flatMap, List.flatMap_assoc]
  refine List.flatMap_congr fun ⟨n, e⟩ _ => ?_
  cases e with
  | directory fs =>
    dsimp only
    rw [directoriesAt, entered]
    split
    · rfl
    · rw [List.flatMap_singleton, lookedInto, List.map_cons, List.map_map]
      rfl
  | file c => rfl
  | link t => rfl

private theorem map_filesAt (n : String) (e : Entry) : (filesAt s wanted directory n e).map (pathOf directory) =
    taken s wanted directory (n, e) ++ (entered directory (n, e)).flatMap (filesBelow s wanted) := by
  cases e with
  | directory fs =>
    rw [filesAt, taken, entered]
    split
    · rfl
    · rw [List.flatMap_singleton, filesBelow, List.map_map]
      rfl
  | file c =>
    rw [filesAt, taken]
    split <;> rfl
  | link t =>
    rw [filesAt, taken]
    split
    · rfl
    · split <;> rfl

/-- The files below `directory` are those `taken` for its entries, and those further below. -/
theorem filesBelow_perm (es : List (String × Entry)) : (filesBelow s wanted (directory, es)).Perm
    (es.flatMap (taken s wanted directory) ++ (es.flatMap (entered directory)).flatMap (filesBelow s wanted)) := by
  have hentries : filesBelow s wanted (directory, es) = es.flatMap fun b =>
      taken s wanted directory b ++ (entered directory b).flatMap (filesBelow s wanted) := by
    rw [filesBelow, filesIn_eq_flatMap, List.map_flatMap]
    exact List.flatMap_congr fun ⟨n, e⟩ _ => map_filesAt n e
  rw [hentries, List.flatMap_assoc]
  exact (List.flatMap_append_perm ..).symm

/-! ## Listing directories by their paths -/

theorem resolve_of_list {p : String} {es : List (String × Entry)} (h : s.list p = .ok es) :
    ∃ place, s.resolve p = .ok (.found place (.directory es)) := by
  rw [FileSystem.list, FileSystem.entry] at h
  split at h
  · cases h
  · rename_i fs hentry
    cases h
    split at hentry
    · cases hentry
    · cases hentry
    · rename_i place e hresolve
      cases hentry
      exact ⟨place, hresolve⟩
  · cases h

/-- The path `b.1` leads to the directory of `b.2`, which is a tree, unless the path is too long. -/
structure LeadsTo (s : FileSystem) (b : String × List (String × Entry)) : Prop where
  areTrees : AreTrees b.2
  list_eq : s.list b.1 = if FileSystem.pathLimit ≤ b.1.utf8ByteSize then .error .nameTooLong else .ok b.2

variable {es : List (String × Entry)}

private theorem leadsTo_of_list (hes : AreTrees es) (h : s.list directory = .ok es) : LeadsTo s (directory, es) := by
  obtain ⟨place, hresolve⟩ := resolve_of_list h
  obtain ⟨-, -, hshort, -⟩ := FileSystem.resolve_eq_ok_iff.1 hresolve
  exact ⟨hes, by rw [if_neg (Nat.not_le.2 hshort), h]⟩

/-- A directory `n` in a directory that can be listed can be listed too, or its path is too long. -/
theorem leadsTo_join (hes : AreTrees es) (h : s.list directory = .ok es) {n : String} {fs : List (String × Entry)}
    (hn : (n, Entry.directory fs) ∈ es) : LeadsTo s (Path.join directory n, fs) := by
  obtain ⟨hname, htree, hlookup⟩ := hes.of_mem hn
  obtain ⟨place, hresolve⟩ := resolve_of_list h
  refine ⟨htree, ?_⟩
  dsimp only
  -- the length of the path is looked at before any directory is, so it decides alone
  split
  · rename_i hlong
    obtain ⟨hne, hzero, -, -⟩ := FileSystem.resolve_eq_ok_iff.1 hresolve
    have hfails : s.resolve (Path.join directory n) = .error .nameTooLong := by
      have hempty : (Path.join directory n).isEmpty = false := by
        rw [Bool.eq_false_iff, ne_eq, String.isEmpty_iff, ← String.toList_inj]
        exact Path.join_ne_nil directory hname.toIsName
      have hzero' : (Path.join directory n).toList.contains '\x00' = false := by
        rw [Bool.eq_false_iff, ne_eq, List.contains_iff_mem, Path.mem_join hname.isAbsolute (by decide), not_or]
        exact ⟨hzero, hname.zero_not_mem⟩
      rw [FileSystem.resolve, hempty, hzero', if_pos hlong]
      rfl
    rw [FileSystem.list, FileSystem.entry, hfails]
  · rename_i hshort
    exact list_eq_ok_of_resolve
      (FileSystem.resolve_join hresolve hname hlookup (by rintro _ ⟨⟩) (Nat.not_le.1 hshort))

private theorem leadsTo_entered (hes : AreTrees es) (h : s.list directory = .ok es) {b : String × List (String × Entry)}
    (hb : b ∈ es.flatMap (entered directory)) : LeadsTo s b := by
  obtain ⟨⟨n, e⟩, he, hb⟩ := List.mem_flatMap.1 hb
  cases e with
  | file c => cases hb
  | link t => cases hb
  | directory fs =>
    rw [entered] at hb
    split at hb
    · cases hb
    · cases List.mem_singleton.1 hb
      exact leadsTo_join hes h he

/-! ## One step -/

variable (s wanted) in
/-- The directories `ds` remain to be looked into, and the files `ps` will have been collected in the end. -/
def Remains (t : Traversal) (ds ps : List String) : Prop :=
  ∃ bs : List (String × List (String × Entry)), t.pending = bs.map Prod.fst ∧ (∀ b ∈ bs, LeadsTo s b) ∧
    ds.Perm (bs.flatMap lookedInto) ∧ ps.Perm (t.collected ++ bs.flatMap (filesBelow s wanted))

variable (wanted) in
private theorem remains_start (hes : AreTrees es) (h : s.list directory = .ok es) :
    Remains s wanted ⟨[directory], []⟩ (lookedInto (directory, es)) (filesBelow s wanted (directory, es)) := by
  refine ⟨[(directory, es)], rfl, fun b hb => ?_, ?_, ?_⟩
  · cases List.mem_singleton.1 hb
    exact leadsTo_of_list hes h
  · rw [List.flatMap_singleton]
  · rw [List.flatMap_singleton, List.nil_append]

/-- To list `directory` leaves those that remain besides, and in the end the same files `ps` are collected. -/
theorem remains_foldl_meet {pending collected ps : List String} {listing : List (String × Entry)}
    {bs : List (String × List (String × Entry))} (hes : AreTrees es) (h : s.list directory = .ok es)
    (horder : listing.Perm es) (hpending : pending = bs.map Prod.fst) (hbs : ∀ b ∈ bs, LeadsTo s b)
    (hps : ps.Perm (collected ++ ((directory, es) :: bs).flatMap (filesBelow s wanted))) :
    Remains s wanted (listing.foldl (meet s wanted directory) ⟨pending, collected⟩)
      ((directoriesIn es).map (pathOf directory) ++ bs.flatMap lookedInto) ps := by
  have hentered : (listing.reverse.flatMap (entered directory)).Perm (es.flatMap (entered directory)) :=
    ((List.reverse_perm listing).trans horder).flatMap_right _
  rw [foldl_meet]
  -- what was met last is looked into first, and before all that was pending
  refine ⟨listing.reverse.flatMap (entered directory) ++ bs, ?_, fun b hb => ?_, ?_, ?_⟩
  · rw [hpending, List.map_append]
  · rcases List.mem_append.1 hb with hb | hb
    · exact leadsTo_entered hes h (hentered.mem_iff.1 hb)
    · exact hbs b hb
  · rw [List.flatMap_append, map_directoriesIn]
    exact (hentered.symm.flatMap_right _).append_right _
  · have htaken : (listing.flatMap (taken s wanted directory)).Perm (es.flatMap (taken s wanted directory)) :=
      horder.flatMap_right _
    rw [List.flatMap_cons] at hps
    rw [List.flatMap_append]
    calc ps
      _ ~ collected ++ (filesBelow s wanted (directory, es) ++ bs.flatMap (filesBelow s wanted)) := hps
      _ ~ collected ++ (es.flatMap (taken s wanted directory) ++
            (es.flatMap (entered directory)).flatMap (filesBelow s wanted) ++ bs.flatMap (filesBelow s wanted)) :=
          ((filesBelow_perm es).append_right _).append_left _
      _ ~ collected ++ (listing.flatMap (taken s wanted directory) ++
            (listing.reverse.flatMap (entered directory)).flatMap (filesBelow s wanted) ++
              bs.flatMap (filesBelow s wanted)) :=
          (((htaken.append (hentered.flatMap_right _)).symm).append_right _).append_left _
      _ = _ := by simp only [List.append_assoc]

/-- A step looks into one of the directories that remain, or fails because its path is too long. -/
theorem Remains.step {t : Traversal} {ds ps : List String} {r : Except FileFault Traversal}
    (h : Remains s wanted t ds ps) (hstep : Step s wanted t r) : ∃ d ds', ds.Perm (d :: ds') ∧
      ((FileSystem.pathLimit ≤ d.utf8ByteSize ∧ r = .error .nameTooLong) ∨
        (d.utf8ByteSize < FileSystem.pathLimit ∧ ∃ t', r = .ok t' ∧ Remains s wanted t' ds' ps)) := by
  obtain ⟨pending, collected⟩ := t
  obtain ⟨bs, hpending, hbs, hds, hps⟩ := h
  cases hpending
  cases bs with
  | nil => cases hstep
  | cons b bs =>
    obtain ⟨d, es⟩ := b
    rw [List.flatMap_cons, lookedInto, List.cons_append] at hds
    refine ⟨d, _, hds, ?_⟩
    obtain ⟨⟨hes, hlist⟩, hbs⟩ := List.forall_mem_cons.1 hbs
    dsimp only at hes hlist
    split at hlist
    · rename_i hlong
      refine .inl ⟨hlong, ?_⟩
      cases hstep with
      | listed hok => cases hlist.symm.trans hok
      | failed he =>
        cases hlist.symm.trans he
        rfl
    · rename_i hshort
      refine .inr ⟨Nat.not_le.1 hshort, ?_⟩
      cases hstep with
      | failed he => cases hlist.symm.trans he
      | listed hok horder =>
        cases hlist.symm.trans hok
        exact ⟨_, rfl, remains_foldl_meet hes hlist horder rfl hbs hps⟩

variable (s wanted) in
/-- As long as something is `pending` there is a next step. -/
theorem exists_step {t : Traversal} (h : t.pending ≠ []) : ∃ r, Step s wanted t r := by
  obtain ⟨pending, collected⟩ := t
  obtain ⟨d, pending, rfl⟩ := List.exists_cons_of_ne_nil h
  cases hlist : s.list d with
  | error e => exact ⟨_, .failed hlist⟩
  | ok es => exact ⟨_, .listed hlist (.refl es)⟩

/-! ## The whole traversal -/

/-- There is no traversal without an end: with each step there is one directory less to be looked into. -/
theorem Remains.acc {t : Traversal} {ds ps : List String} (h : Remains s wanted t ds ps) :
    Acc (fun t' t => Step s wanted t (.ok t')) t := by
  -- the directories that remain are counted, for a new one can come into the list of pending ones at each step
  generalize hn : ds.length = n
  induction n generalizing t ds with
  | zero =>
    refine .intro t fun t' hstep => ?_
    obtain ⟨d, ds', hds, -⟩ := h.step hstep
    rw [hds.length_eq] at hn
    cases hn
  | succ n ih =>
    refine .intro t fun t' hstep => ?_
    obtain ⟨d, ds', hds, ⟨-, hr⟩ | ⟨-, _, hr, h'⟩⟩ := h.step hstep
    · cases hr
    · cases hr
      refine ih h' ?_
      rw [hds.length_eq, List.length_cons] at hn
      exact Nat.succ.inj hn

private theorem exists_ends {t : Traversal} (h : Acc (fun t' t => Step s wanted t (.ok t')) t) :
    ∃ r, Ends s wanted t r := by
  induction h with
  | intro t _ ih =>
    by_cases hpending : t.pending = []
    · obtain ⟨pending, collected⟩ := t
      cases hpending
      exact ⟨_, .done⟩
    · obtain ⟨r, hstep⟩ := exists_step s wanted hpending
      cases r with
      | error e => exact ⟨_, .failed hstep⟩
      | ok t' =>
        obtain ⟨r, hends⟩ := ih t' hstep
        exact ⟨r, .step hstep hends⟩

/-- If the paths of all directories `ds` are short enough, the files `ps` are collected. -/
theorem Remains.ends_of_short {t : Traversal} {ds ps : List String} {r : Except FileFault (List String)}
    (h : Remains s wanted t ds ps) (hshort : ∀ d ∈ ds, d.utf8ByteSize < FileSystem.pathLimit)
    (hends : Ends s wanted t r) : ∃ qs, r = .ok qs ∧ qs ~ ps := by
  -- along the run, with what remains as the invariant of each step
  induction hends generalizing ds with
  | @done collected =>
    obtain ⟨bs, hpending, -, -, hps⟩ := h
    cases List.map_eq_nil_iff.1 hpending.symm
    rw [List.flatMap_nil, List.append_nil] at hps
    exact ⟨collected, rfl, hps.symm⟩
  | failed hstep =>
    obtain ⟨d, ds', hds, ⟨hlong, -⟩ | ⟨-, _, hr, -⟩⟩ := h.step hstep
    · exact absurd (hshort d (hds.mem_iff.2 (List.mem_cons_self ..))) (Nat.not_lt.2 hlong)
    · cases hr
  | step hstep _ ih =>
    obtain ⟨d, ds', hds, ⟨-, hr⟩ | ⟨-, _, hr, h'⟩⟩ := h.step hstep
    · cases hr
    · cases hr
      exact ih h' fun d' hd' => hshort d' (hds.mem_iff.2 (List.mem_cons_of_mem _ hd'))

/-- If the path of one directory `d` is too long, nothing is collected. -/
theorem Remains.ends_of_long {t : Traversal} {ds ps : List String} {r : Except FileFault (List String)}
    (h : Remains s wanted t ds ps) {d : String} (hd : d ∈ ds) (hlong : FileSystem.pathLimit ≤ d.utf8ByteSize)
    (hends : Ends s wanted t r) : r = .error .nameTooLong := by
  -- the long path stays among those that remain, so the traversal cannot end well before it comes to it
  induction hends generalizing ds with
  | done =>
    obtain ⟨bs, hpending, -, hds, -⟩ := h
    cases List.map_eq_nil_iff.1 hpending.symm
    cases hds.mem_iff.1 hd
  | failed hstep =>
    obtain ⟨d', ds', hds, ⟨-, hr⟩ | ⟨-, _, hr, -⟩⟩ := h.step hstep
    · cases hr
      rfl
    · cases hr
  | step hstep _ ih =>
    obtain ⟨d', ds', hds, ⟨-, hr⟩ | ⟨hshort, _, hr, h'⟩⟩ := h.step hstep
    · cases hr
    · cases hr
      refine ih h' ((List.mem_cons.1 (hds.mem_iff.1 hd)).resolve_left ?_)
      rintro rfl
      exact Nat.not_lt.2 hlong hshort

end Traversal

variable {s : FileSystem} {root : String} {es : List (String × Entry)}

/-- `lookedInto` are the root and the directories that are visible below it. -/
theorem mem_lookedInto (hes : AreTrees es) {d : String} :
    d ∈ Traversal.lookedInto (root, es) ↔ ∃ ns, IsVisible es ns ∧ pathOf root ns = d := by
  rw [Traversal.lookedInto, List.mem_cons, List.mem_map]
  constructor
  · rintro (rfl | ⟨ns, hns, rfl⟩)
    · exact ⟨[], ⟨nofun, es, Entry.at?.eq_1 _⟩, rfl⟩
    · exact ⟨ns, ((mem_directoriesIn_iff_isVisible hes).1 hns).2, rfl⟩
  · rintro ⟨ns, hns, rfl⟩
    by_cases hne : ns = []
    · exact .inl (hne ▸ rfl)
    · exact .inr ⟨ns, (mem_directoriesIn_iff_isVisible hes).2 ⟨hne, hns⟩, rfl⟩

private theorem files_of_list_of_short (wanted : List String) (hes : AreTrees es) (h : s.list root = .ok es)
    (hshort : ∀ ns, IsVisible es ns → (pathOf root ns).utf8ByteSize < FileSystem.pathLimit) :
    files s root wanted = .ok (((filesIn s wanted root es).mergeSort inOrder).map (pathOf root)) := by
  have hnone : (directoriesIn es).any (isTooLong root) = false := by
    refine List.any_eq_false.2 fun d hd => ?_
    rw [isTooLong, decide_eq_true_eq, Nat.not_le]
    exact hshort d ((mem_directoriesIn_iff_isVisible hes).1 hd).2
  obtain ⟨place, hresolve⟩ := Traversal.resolve_of_list h
  exact files_of_not_tooLong wanted hresolve hnone

private theorem files_of_list_of_long (wanted : List String) (hes : AreTrees es) (h : s.list root = .ok es)
    {ns : List String}
    (hns : IsVisible es ns) (hlong : FileSystem.pathLimit ≤ (pathOf root ns).utf8ByteSize) :
    files s root wanted = .error .nameTooLong := by
  obtain ⟨place, hresolve⟩ := Traversal.resolve_of_list h
  -- the root itself can be listed, so that its own path is short enough
  have hne : ns ≠ [] := by
    rintro rfl
    exact Nat.not_lt.2 hlong (FileSystem.resolve_eq_ok_iff.1 hresolve).2.2.1
  refine files_of_tooLong hresolve (List.any_eq_true.2 ⟨ns, (mem_directoriesIn_iff_isVisible hes).2 ⟨hne, hns⟩, ?_⟩)
  rw [isTooLong, decide_eq_true_eq]
  exact hlong

/-- In a tree every `Traversal` from `root` on comes to its end, in whatever order the entries of directories come.
If the paths of all visible directories are short enough it ends with `ps`, the paths of the files that are to be
collected, `IsCollection`, and in order these are the `files` of the dataset. If one of the paths is too long it
ends with an error, and so do `files`. -/
theorem files_of_traversal (wanted : List String) (hs : s.root.IsTree) (hroot : s.list root = .ok es) :
    Acc (fun t' t => Traversal.Step s wanted t (.ok t')) ⟨[root], []⟩ ∧
    (∃ r, Traversal.Ends s wanted ⟨[root], []⟩ r) ∧
    ((∀ ns, IsVisible es ns → (pathOf root ns).utf8ByteSize < FileSystem.pathLimit) →
      ∃ ps, files s root wanted = .ok ps ∧ IsCollection s wanted root es ps ∧
        ∀ r, Traversal.Ends s wanted ⟨[root], []⟩ r → ∃ qs, r = .ok qs ∧ qs ~ ps) ∧
    ((∃ ns, IsVisible es ns ∧ FileSystem.pathLimit ≤ (pathOf root ns).utf8ByteSize) →
      files s root wanted = .error .nameTooLong ∧
        ∀ r, Traversal.Ends s wanted ⟨[root], []⟩ r → r = .error .nameTooLong) := by
  obtain ⟨place, hresolve⟩ := Traversal.resolve_of_list hroot
  obtain ⟨hne, -, -, hleads⟩ := FileSystem.resolve_eq_ok_iff.1 hresolve
  have hes : AreTrees es := hs.of_at? hleads.isIn
  have hstart := Traversal.remains_start wanted hes hroot
  refine ⟨hstart.acc, Traversal.exists_ends hstart.acc, fun hshort => ?_, fun ⟨ns, hns, hlong⟩ => ?_⟩
  · refine ⟨_, files_of_list_of_short wanted hes hroot hshort, isCollection_mergeSort hne hes, fun r hends => ?_⟩
    have hpaths : ∀ d ∈ Traversal.lookedInto (root, es), d.utf8ByteSize < FileSystem.pathLimit := by
      intro d hd
      obtain ⟨ns, hns, rfl⟩ := (mem_lookedInto hes).1 hd
      exact hshort ns hns
    obtain ⟨qs, hr, hqs⟩ := hstart.ends_of_short hpaths hends
    exact ⟨qs, hr, hqs.trans ((List.mergeSort_perm _ inOrder).symm.map (pathOf root))⟩
  · exact ⟨files_of_list_of_long wanted hes hroot hns hlong,
      fun r hends => hstart.ends_of_long ((mem_lookedInto hes).2 ⟨ns, hns, rfl⟩) hlong hends⟩

/-! ### Links -/

/-- The entries of a directory with a link to itself, a link to nothing, and a directory with a link back. -/
def linkedEntries : List (String × Entry) :=
  [("a.ttl", .file .empty), ("loop.ttl", .link "."), ("gone.TTL", .link "nowhere"),
    ("sub", .directory [("b.ttl", .file .empty), ("back.ttl", .link "..")])]

def linked : FileSystem := ⟨.directory linkedEntries, []⟩

private theorem isTree_linked : linked.root.IsTree :=
  ⟨by decide, rfl, trivial, by decide, rfl, trivial, by decide, rfl, trivial,
    by decide, rfl, ⟨by decide, rfl, trivial, by decide, rfl, trivial, trivial⟩, trivial⟩

private theorem list_linked : linked.list "." = .ok linkedEntries := by
  have hsteps : Path.steps "." = [.here] := by decide
  have hresolve : linked.resolve "." = .ok (.found [] linked.root) := by
    refine FileSystem.resolve_eq_ok_iff.2 ⟨by decide, by decide, by decide, ?_⟩
    rw [hsteps]
    exact .here rfl (.found rfl)
  exact list_eq_ok_of_resolve hresolve

private theorem isVisible_linked {ns : List String} (h : IsVisible linkedEntries ns) : ns = [] ∨ ns = ["sub"] := by
  have hdirectories : directoriesIn linkedEntries = [["sub"]] := by decide
  have hes : AreTrees linkedEntries := isTree_linked
  by_cases hne : ns = []
  · exact .inl hne
  · have hmem := (mem_directoriesIn_iff_isVisible hes).2 ⟨hne, h⟩
    rw [hdirectories] at hmem
    exact .inr (List.mem_singleton.1 hmem)

/-- The links do not keep the traversal from its end. -/
theorem files_of_traversal_linked : ∃ ps, files linked "." ["ttl"] = .ok ps ∧
    IsCollection linked ["ttl"] "." linkedEntries ps ∧
    ∀ r, Traversal.Ends linked ["ttl"] ⟨["."], []⟩ r → ∃ qs, r = .ok qs ∧ qs ~ ps := by
  obtain ⟨-, -, hshort, -⟩ := files_of_traversal ["ttl"] isTree_linked list_linked
  refine hshort fun ns hns => ?_
  rcases isVisible_linked hns with rfl | rfl
  · decide
  · decide

/-! ### A root with a long path -/

/-- The current directory, with as many slashes behind it that it can just be listed. -/
def farRoot : String := "." ++ String.ofList (List.replicate 4092 '/')

def farEntries : List (String × Entry) := [("sub", .directory [("a.ttl", .file .empty)])]

def far : FileSystem := ⟨.directory farEntries, []⟩

private theorem utf8ByteSize_slashes (n : Nat) : (String.ofList (List.replicate n '/')).utf8ByteSize = n := by
  induction n with
  | zero => rfl
  | succ n ih =>
    rw [List.replicate_succ, String.ofList_cons, String.utf8ByteSize_append, ih, String.utf8ByteSize_singleton,
      Nat.add_comm]
    rfl

private theorem named_append_slashes (p : String) (n : Nat) :
    Path.named (p ++ String.ofList (List.replicate n '/')) = Path.named p := by
  induction n with
  | zero => rw [List.replicate_zero, String.ofList_nil, String.append_empty]
  | succ n ih =>
    have hlast := Path.named_append_slash (p ++ String.ofList (List.replicate n '/')) ""
    rw [String.append_empty, ih] at hlast
    rw [List.replicate_succ', String.ofList_append, ← String.append_assoc]
    exact hlast.trans (List.append_nil _)

private theorem utf8ByteSize_farRoot : farRoot.utf8ByteSize = 4093 := by
  rw [farRoot, String.utf8ByteSize_append, utf8ByteSize_slashes]
  rfl

private theorem toList_farRoot : farRoot.toList = '.' :: List.replicate 4092 '/' := by
  rw [farRoot, String.toList_append, String.toList_ofList, String.toList_ofList, List.singleton_append]

private theorem resolve_farRoot : far.resolve farRoot = .ok (.found [] far.root) := by
  have hnamed : Path.named farRoot = [.here] := (named_append_slashes "." 4092).trans (by decide)
  have hstart : far.startOf farRoot = [] := by
    rw [FileSystem.startOf]
    split <;> rfl
  refine FileSystem.resolve_eq_ok_iff.2 ⟨?_, ?_, ?_, ?_⟩
  · rw [toList_farRoot]
    exact List.cons_ne_nil _ _
  · rw [toList_farRoot, List.mem_cons, List.mem_replicate]
    exact fun h => h.elim (by decide) fun h => absurd h.2 (by decide)
  · rw [utf8ByteSize_farRoot]
    decide
  · rw [hstart]
    rcases Path.steps_eq farRoot with h | h
    · rw [h, hnamed]
      exact .here rfl (.found rfl)
    · rw [h, hnamed]
      exact .here rfl (.here rfl (.found rfl))

/-- A root can be listed and nothing below it be collected: the path of a directory in it is too long. -/
theorem not_forall_isCollection : ¬∀ (s : FileSystem) (root : String) (es : List (String × Entry)) (wanted : List String),
    s.root.IsTree → s.list root = .ok es → ∃ ps, files s root wanted = .ok ps ∧ IsCollection s wanted root es ps := by
  intro h
  have htree : far.root.IsTree :=
    ⟨by decide, rfl, ⟨by decide, rfl, trivial, trivial⟩, trivial⟩
  have hlist : far.list farRoot = .ok farEntries := list_eq_ok_of_resolve resolve_farRoot
  have hsub : IsVisible farEntries ["sub"] := isVisible_cons.2 ⟨by decide, _, rfl, nofun, _, rfl⟩
  have hlong : FileSystem.pathLimit ≤ (pathOf farRoot ["sub"]).utf8ByteSize := by
    have hname : Path.isAbsolute "sub" = false := by decide
    have hsize : "sub".utf8ByteSize = 3 := by decide
    have hjoin := FileSystem.utf8ByteSize_join_ge farRoot hname
    rw [utf8ByteSize_farRoot, hsize] at hjoin
    rw [pathOf, List.foldl_cons, List.foldl_nil]
    exact hjoin
  obtain ⟨ps, hps, -⟩ := h far farRoot farEntries ["ttl"] htree hlist
  cases hps.symm.trans (files_of_list_of_long ["ttl"] htree hlist hsub hlong)

end DatasetLint.Dataset
