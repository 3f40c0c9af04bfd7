import DatasetLint.Dataset
import DatasetLint.Proofs.Files.Path
import DatasetLint.Proofs.Files.Written

/-!
# Paths below a directory

A path that leads to a directory leads, one name further, to what the directory has under that name; so names
that are joined to it lead through the directories below it.
-/

namespace DatasetLint.Files

namespace FileSystem

variable {s : FileSystem}

/-- A way to the place `p` goes on from there. -/
theorem Leads.append {links : Nat} {place p : Location} {rest tail : List Part} {e : Entry} {t : Target}
    (h : s.Leads links place rest (.found p e)) (htail : ∀ links, s.Leads links p tail t) :
    s.Leads links place (rest ++ tail) t := by
  generalize hfound : Target.found p e = u at h
  induction h with
  | found he =>
    cases hfound
    exact htail _
  | absent => cases hfound
  | root hdir _ ih => exact .root hdir (ih hfound)
  | here hdir _ ih => exact .here hdir (ih hfound)
  | up hdir _ ih => exact .up hdir (ih hfound)
  | link hdir hn he hne _ ih => exact .link hdir hn he hne (List.append_assoc .. ▸ ih hfound)
  | down hdir hn he hlink _ ih => exact .down hdir hn he hlink (ih hfound)

/-- A way leads to `t` without a point on it if it does with the point. -/
theorem Leads.drop_here {links : Nat} {place : Location} {xs ys : List Part} {t : Target}
    (h : s.Leads links place (xs ++ .here :: ys) t) : s.Leads links place (xs ++ ys) t := by
  -- the induction is on the way with the point; every other step is one of the shorter way too
  generalize hsteps : xs ++ .here :: ys = steps at h
  induction h generalizing xs with
  | found => exact absurd hsteps (by simp)
  | absent => exact absurd hsteps (by cases xs <;> simp)
  | @root links place es tail t hdir h ih =>
    cases xs with
    | nil => cases hsteps
    | cons x xs =>
      cases hsteps
      exact .root hdir (ih rfl)
  | @here links place es tail t hdir h ih =>
    cases xs with
    | nil =>
      cases hsteps
      exact h
    | cons x xs =>
      cases hsteps
      exact .here hdir (ih rfl)
  | @up links place es tail t hdir h ih =>
    cases xs with
    | nil => cases hsteps
    | cons x xs =>
      cases hsteps
      exact .up hdir (ih rfl)
  | @link links place es n tail t target hdir hn he hne h ih =>
    cases xs with
    | nil => cases hsteps
    | cons x xs =>
      cases hsteps
      exact .link hdir hn he hne (List.append_assoc .. ▸ ih (List.append_assoc ..))
  | @down links place es n tail t f hdir hn he hlink h ih =>
    cases xs with
    | nil => cases hsteps
    | cons x xs =>
      cases hsteps
      exact .down hdir hn he hlink (ih rfl)

theorem Leads.filter_here {links : Nat} {place : Location} {xs ys : List Part} {t : Target}
    (h : s.Leads links place (xs ++ ys) t) : s.Leads links place (xs ++ ys.filter (· ≠ .here)) t := by
  induction ys generalizing xs with
  | nil => exact h
  | cons y ys ih =>
    by_cases hy : y = .here
    · subst hy
      rw [List.filter_cons_of_neg (by decide)]
      exact ih h.drop_here
    · have hcons : s.Leads links place (xs ++ [y] ++ ys) t := by
        rwa [List.append_assoc, List.singleton_append]
      have hrest := ih hcons
      rwa [List.filter_cons, if_pos (decide_eq_true hy), ← List.singleton_append, ← List.append_assoc]

/-- A name that a file or directory can have. -/
structure IsFileName (n : String) : Prop extends Path.IsName n where
  zero_not_mem : '\x00' ∉ n.toList
  short : n.utf8ByteSize ≤ nameLimit

instance : DecidablePred IsFileName := fun n =>
  decidable_of_iff ((n.toList ≠ [] ∧ '/' ∉ n.toList ∧ n.toList ≠ ['.'] ∧ n.toList ≠ ['.', '.']) ∧
      '\x00' ∉ n.toList ∧ n.utf8ByteSize ≤ nameLimit)
    ⟨fun ⟨⟨hne, hslash, hhere, hup⟩, hzero, hshort⟩ => ⟨⟨hne, hslash, hhere, hup⟩, hzero, hshort⟩,
      fun h => ⟨⟨h.ne_empty, h.slash_not_mem, h.not_here, h.not_up⟩, h.zero_not_mem, h.short⟩⟩

/-- The place that `path` starts from. -/
def startOf (s : FileSystem) (path : String) : Location := if Path.isAbsolute path then [] else s.current

theorem resolve_eq_ok_iff {path : String} {t : Target} : s.resolve path = .ok t ↔
    path.toList ≠ [] ∧ '\x00' ∉ path.toList ∧ path.utf8ByteSize < pathLimit ∧
      s.Leads linkLimit (s.startOf path) (Path.steps path) t := by
  have hempty : path.isEmpty = true ↔ path.toList = [] := by
    rw [String.isEmpty_iff, ← String.toList_inj]
    exact Iff.rfl
  rw [resolve]
  split
  · rename_i h
    exact ⟨fun h' => (by cases h'), fun h' => absurd (hempty.1 h) h'.1⟩
  · rename_i hne
    split
    · rename_i h
      exact ⟨fun h' => (by cases h'), fun h' => absurd (List.contains_iff_mem.1 h) h'.2.1⟩
    · rename_i hzero
      split
      · rename_i h
        exact ⟨fun h' => (by cases h'), fun h' => absurd h'.2.2.1 (Nat.not_lt.2 h)⟩
      · rename_i hlong
        refine ⟨fun h => ⟨fun h' => hne (hempty.2 h'), fun h' => hzero (List.contains_iff_mem.2 h'),
          Nat.not_le.1 hlong, leads_of_walk h⟩, fun h => h.2.2.2.walk_eq⟩

theorem resolve_join {base n : String} {dir : Location} {es : List (String × Entry)} {e : Entry}
    (hbase : s.resolve base = .ok (.found dir (.directory es))) (hn : IsFileName n) (he : es.lookup n = some e)
    (hlink : ∀ t, e ≠ .link t) (hlength : (Path.join base n).utf8ByteSize < pathLimit) :
    s.resolve (Path.join base n) = .ok (.found (dir ++ [n]) e) := by
  obtain ⟨hne, hzero, -, hleads⟩ := resolve_eq_ok_iff.1 hbase
  have hdir : s.root.at? dir = some (.directory es) := hleads.isIn
  have hat : s.root.at? (dir ++ [n]) = some e := by
    rw [Entry.at?_append, hdir]
    exact he
  -- a slash at the end of the base only adds a point to its way
  have hnamed : s.Leads linkLimit (s.startOf base) (Path.named base) (.found dir (.directory es)) := by
    rcases Path.steps_eq base with hsteps | hsteps
    · rwa [hsteps] at hleads
    · rw [hsteps] at hleads
      exact List.append_nil (Path.named base) ▸ hleads.drop_here
  have hstart : s.startOf (Path.join base n) = s.startOf base := by
    rw [startOf, startOf, Path.join_of_relative hn.isAbsolute, Path.isAbsolute_joint hne]
  refine resolve_eq_ok_iff.2 ⟨?_, ?_, hlength, ?_⟩
  · rw [Path.join_of_relative hn.isAbsolute, String.toList_append]
    exact fun h => hn.ne_empty (List.append_eq_nil_iff.1 h).2
  · rw [Path.mem_join hn.isAbsolute (by decide), not_or]
    exact ⟨hzero, hn.zero_not_mem⟩
  · rw [hstart, Path.steps_join hn.toIsName]
    exact hnamed.append fun links => .down hdir hn.short he hlink (.found hat)

/-! ## Several names further -/

theorem utf8ByteSize_join_ge (root : String) {n : String} (hn : Path.isAbsolute n = false) :
    root.utf8ByteSize + n.utf8ByteSize ≤ (Path.join root n).utf8ByteSize := by
  rw [Path.join_of_relative hn, Path.joint, String.utf8ByteSize_append]
  refine Nat.add_le_add_right ?_ _
  split
  · exact Nat.le_refl _
  · rw [String.utf8ByteSize_append]
    exact Nat.le_add_right ..

theorem utf8ByteSize_pathOf_ge {root : String} {names : List String} (hnames : ∀ n ∈ names, IsFileName n) :
    root.utf8ByteSize ≤ (Dataset.pathOf root names).utf8ByteSize := by
  induction names generalizing root with
  | nil => exact Nat.le_refl _
  | cons n ns ih =>
    have hjoin := utf8ByteSize_join_ge root (hnames n (List.mem_cons_self ..)).isAbsolute
    exact Nat.le_trans (Nat.le_trans (Nat.le_add_right ..) hjoin) (ih fun m hm => hnames m (List.mem_cons_of_mem _ hm))

/-- What is at `names` below the directory `root` is found by the `pathOf` these names. -/
theorem resolve_pathOf {root : String} {names : List String} {dir : Location} {es : List (String × Entry)} {e : Entry}
    (hroot : s.resolve root = .ok (.found dir (.directory es))) (hnames : ∀ n ∈ names, IsFileName n)
    (he : (Entry.directory es).at? names = some e) (hlink : ∀ t, e ≠ .link t)
    (hlength : (Dataset.pathOf root names).utf8ByteSize < pathLimit) :
    s.resolve (Dataset.pathOf root names) = .ok (.found (dir ++ names) e) := by
  induction names generalizing root dir es with
  | nil =>
    cases he
    rwa [List.append_nil]
  | cons n ns ih =>
    have hns : ∀ m ∈ ns, IsFileName m := fun m hm => hnames m (List.mem_cons_of_mem _ hm)
    have hshort : (Path.join root n).utf8ByteSize < pathLimit :=
      Nat.lt_of_le_of_lt (utf8ByteSize_pathOf_ge hns) hlength
    rw [Entry.at?_cons, Entry.entries] at he
    obtain ⟨f, hf, he⟩ := Option.bind_eq_some_iff.1 he
    -- a link has nothing below it, so it is not on the way
    have hf_link : ∀ t, f ≠ .link t := by
      rintro t rfl
      cases ns with
      | nil =>
        cases he
        exact hlink t rfl
      | cons m ms => cases he
    have hjoin := resolve_join hroot (hnames n (List.mem_cons_self ..)) hf hf_link hshort
    cases ns with
    | nil =>
      cases he.symm.trans (Entry.at?.eq_1 f)
      exact hjoin
    | cons m ms =>
      obtain ⟨fs, rfl⟩ : ∃ fs, f = .directory fs := by
        cases f with
        | directory fs => exact ⟨fs, rfl⟩
        | file c => cases he
        | link t => cases he
      have hrest := ih hjoin hns he hlength
      rwa [List.append_assoc, List.singleton_append] at hrest

end FileSystem

end DatasetLint.Files
