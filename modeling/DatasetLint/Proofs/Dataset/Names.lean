import DatasetLint.Proofs.Dataset.Traversal
import DatasetLint.Suppression

/-!
# What collected files are called

A file below a root is called by the names on the way to it, with slashes between them, however the root itself
is written. Joined to the root this is the path again, so that different files are called differently, and what a
known problem is about is one file at most.
-/

namespace DatasetLint

namespace Files.Path

variable {root : String} {names : List String}

/-- `nameBelow root` does not show how `root` is written. -/
theorem nameBelow_pathOf (hroot : root.toList ≠ []) (hnames : ∀ n ∈ names, IsName n) :
    nameBelow root (Dataset.pathOf root names) = "/".intercalate names := by
  have htexts : (names.map Part.name).map Part.text = names := by
    rw [List.map_map]
    exact List.map_id names
  rw [nameBelow, parts_pathOf hroot hnames, List.isPrefixOf_iff_prefix.2 (List.prefix_append ..), if_pos rfl,
    List.drop_left, htexts, Text.intercalate_eq]

private theorem isAbsolute_append {n : String} (hn : IsName n) (p : String) : isAbsolute (n ++ p) = false := by
  obtain ⟨c, r, hr⟩ := List.exists_cons_of_ne_nil hn.ne_empty
  have hhead : (n ++ p).toList.head? = n.toList.head? := by
    rw [String.toList_append, hr]
    rfl
  rw [isAbsolute, hhead]
  exact hn.isAbsolute

/-- It makes no difference whether `n` and `p` are joined to `root` one after the other or together. -/
theorem join_join (root : String) {n p : String} (hn : IsName n) (hp : isAbsolute p = false) :
    join (join root n) p = join root (n ++ "/" ++ p) := by
  have hopen : joint (join root n) = join root n ++ "/" := by
    rw [joint, if_neg]
    rw [Bool.or_eq_true, not_or]
    refine ⟨fun h => join_ne_nil root hn ?_, fun h => hn.slash_not_mem ?_⟩
    · rw [String.isEmpty_iff.1 h]
      rfl
    · obtain ⟨c, hc⟩ := Option.isSome_iff_exists.1 (List.getLast?_isSome.2 hn.ne_empty)
      rw [endsWithSlash, beq_iff_eq, join_of_relative hn.isAbsolute, String.toList_append, List.getLast?_append, hc,
        Option.some_or] at h
      exact List.mem_of_getLast? (hc.trans h)
  have htogether : isAbsolute (n ++ "/" ++ p) = false := by
    rw [String.append_assoc]
    exact isAbsolute_append hn _
  rw [join_of_relative hp, hopen, join_of_relative hn.isAbsolute, join_of_relative htogether]
  simp only [String.append_assoc]

/-- `names` with slashes between them lead where they lead one after the other. -/
theorem join_intercalate (root : String) (hnames : ∀ n ∈ names, IsName n) (hne : names ≠ []) :
    join root ("/".intercalate names) = Dataset.pathOf root names := by
  induction names generalizing root with
  | nil => exact absurd rfl hne
  | cons n ns ih =>
    have hn := hnames n (List.mem_cons_self ..)
    have hns : ∀ m ∈ ns, IsName m := fun m hm => hnames m (List.mem_cons_of_mem _ hm)
    cases ns with
    | nil => rw [String.intercalate_singleton]; rfl
    | cons m ms =>
      -- what is behind a slash begins with a name, so it is joined as a relative path
      have hrelative : isAbsolute ("/".intercalate (m :: ms)) = false := by
        cases ms with
        | nil =>
          rw [String.intercalate_singleton]
          exact (hns m (List.mem_cons_self ..)).isAbsolute
        | cons k ks =>
          rw [String.intercalate_cons_cons, String.append_assoc]
          exact isAbsolute_append (hns m (List.mem_cons_self ..)) _
      rw [String.intercalate_cons_cons, ← join_join root hn hrelative]
      exact ih (join root n) hns (List.cons_ne_nil m ms)

end Files.Path

namespace Dataset

open Files Files.Entry

variable {s : FileSystem} {wanted : List String} {root : String} {es : List (String × Entry)}

private theorem IsCollectible.ne_nil {names : List String} (h : IsCollectible s wanted root es names) : names ≠ [] := by
  obtain ⟨n, hn, -⟩ := h.extension
  rintro rfl
  cases hn

/-- What `files` collects of a tree is a collection. -/
theorem isCollection_of_files {ps : List String} (hs : s.root.IsTree) (h : files s root wanted = .ok ps) :
    root.toList ≠ [] ∧ ∃ es, s.list root = .ok es ∧ AreTrees es ∧ IsCollection s wanted root es ps := by
  rw [files] at h
  cases hlist : s.list root with
  | error e => rw [hlist] at h; cases h
  | ok es =>
    obtain ⟨place, hresolve⟩ := Traversal.resolve_of_list hlist
    obtain ⟨hne, -, -, hleads⟩ := FileSystem.resolve_eq_ok_iff.1 hresolve
    have hes : AreTrees es := hs.of_at? hleads.isIn
    rw [hlist] at h
    dsimp only at h
    split at h
    · cases h
    · cases h
      exact ⟨hne, es, rfl, hes, isCollection_mergeSort hne hes⟩

/-- A file that is to be collected is called by its `names`, and joined to `root` this is its path. -/
theorem IsCollectible.nameBelow_pathOf {names : List String} (hroot : root.toList ≠ []) (hes : AreTrees es)
    (h : IsCollectible s wanted root es names) :
    Path.nameBelow root (pathOf root names) = "/".intercalate names ∧
      Path.join root (Path.nameBelow root (pathOf root names)) = pathOf root names := by
  have hname := Path.nameBelow_pathOf hroot (h.areNames hes)
  exact ⟨hname, by rw [hname, Path.join_intercalate root (h.areNames hes) h.ne_nil]⟩

/-- Two collected files `p` and `q` are not called the same. -/
theorem nameBelow_inj {ps : List String} (hs : s.root.IsTree) (h : files s root wanted = .ok ps) {p q : String}
    (hp : p ∈ ps) (hq : q ∈ ps) (heq : Path.nameBelow root p = Path.nameBelow root q) : p = q := by
  obtain ⟨hne, es, -, hes, hps⟩ := isCollection_of_files hs h
  obtain ⟨as, has, rfl⟩ := (hps.mem_iff p).1 hp
  obtain ⟨bs, hbs, rfl⟩ := (hps.mem_iff q).1 hq
  rw [← (has.nameBelow_pathOf hne hes).2, heq, (hbs.nameBelow_pathOf hne hes).2]

/-- Every collected file `p` is called by the `names` of the entries on the way from `root` down to it, with slashes
between them, and this joined to `root` is `p`. No two of `ps` are called the same, so that a known problem `e` can
be one of one file only. -/
theorem names_of_files {ps : List String} (hs : s.root.IsTree) (h : files s root wanted = .ok ps) :
    (∃ es, s.list root = .ok es ∧ ∀ p ∈ ps, ∃ names, IsCollectible s wanted root es names ∧ p = pathOf root names ∧
      Path.nameBelow root p = "/".intercalate names ∧ Path.join root (Path.nameBelow root p) = p) ∧
    (ps.map (Path.nameBelow root)).Nodup ∧
    ∀ (e : Suppression) (m n : String), ∀ p ∈ ps, ∀ q ∈ ps,
      e.suppresses (Path.nameBelow root p) m = true → e.suppresses (Path.nameBelow root q) n = true → p = q := by
  obtain ⟨hne, es, hlist, hes, hps⟩ := isCollection_of_files hs h
  refine ⟨⟨es, hlist, fun p hp => ?_⟩, ?_, fun e m n p hp q hq hm hn => ?_⟩
  · obtain ⟨names, hnames, rfl⟩ := (hps.mem_iff p).1 hp
    obtain ⟨hname, hjoin⟩ := hnames.nameBelow_pathOf hne hes
    exact ⟨names, hnames, rfl, hname, hjoin⟩
  · exact hps.nodup.map_on fun p hp q hq heq => nameBelow_inj hs h hp hq heq
  · rw [Suppression.suppresses, Bool.and_eq_true, beq_iff_eq] at hm hn
    exact nameBelow_inj hs h hp hq (hm.1.symm.trans hn.1)

/-- A directory with files on two levels. -/
def nested : FileSystem :=
  ⟨.directory [("data", .directory [("a.ttl", .file .empty), ("sub", .directory [("b.ttl", .file .empty)])])], []⟩

private theorem files_nested : files nested "data//" ["ttl"] = .ok ["data//a.ttl", "data//sub/b.ttl"] := by
  have hsteps : Path.steps "data//" = [.name "data", .here] := by decide
  have hresolve : nested.resolve "data//" = .ok (.found ["data"]
      (.directory [("a.ttl", .file .empty), ("sub", .directory [("b.ttl", .file .empty)])])) := by
    refine FileSystem.resolve_eq_ok_iff.2 ⟨by decide, by decide, by decide, ?_⟩
    rw [hsteps]
    exact .down rfl (by decide) rfl nofun (.here rfl (.found rfl))
  rw [files_of_not_tooLong ["ttl"] hresolve (by decide)]
  refine congrArg Except.ok ?_
  rw [List.mergeSort_of_pairwise (by decide)]
  decide

theorem names_of_files_nested : nested.root.IsTree ∧
    files nested "data//" ["ttl"] = .ok ["data//a.ttl", "data//sub/b.ttl"] ∧
    ["a.ttl", "sub/b.ttl"].Nodup ∧ Path.join "data//" "sub/b.ttl" = "data//sub/b.ttl" := by
  have htree : nested.root.IsTree :=
    ⟨by decide, rfl, ⟨by decide, rfl, trivial, by decide, rfl, ⟨by decide, rfl, trivial, trivial⟩, trivial⟩, trivial⟩
  have hname : Path.nameBelow "data//" "data//sub/b.ttl" = "sub/b.ttl" := by decide
  have hnames : ["data//a.ttl", "data//sub/b.ttl"].map (Path.nameBelow "data//") = ["a.ttl", "sub/b.ttl"] := by decide
  obtain ⟨⟨es, -, hpaths⟩, hnodup, -⟩ := names_of_files htree files_nested
  obtain ⟨names, -, -, -, hjoin⟩ := hpaths "data//sub/b.ttl" (by decide)
  exact ⟨htree, files_nested, hnames ▸ hnodup, hname ▸ hjoin⟩

end Dataset

end DatasetLint
