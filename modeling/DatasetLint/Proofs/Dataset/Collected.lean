import DatasetLint.Proofs.Dataset.Added
import DatasetLint.Proofs.Files.Order
import DatasetLint.Proofs.Text.Span
import Mathlib.Data.List.Sort

/-!
# What is collected

A file is collected if its name has one of the extensions and no directory on the way to it is hidden. Links are
not followed on the way. At its end a link counts as what it leads to, so that one to a directory is no file. In a
tree in which each name of a directory stands for one thing, every such file is collected once.
-/

namespace DatasetLint

namespace Files.Entry

open FileSystem (IsFileName)

/-! ## Trees -/

mutual

/-- Each directory has different names, all of which files can have. -/
def IsTree : Entry → Prop
  | directory es => AreTrees es
  | _ => True

/-- The entries of a directory have different names, all of which files can have, and are trees. -/
def AreTrees : List (String × Entry) → Prop
  | [] => True
  | (n, e) :: es => IsFileName n ∧ es.lookup n = none ∧ e.IsTree ∧ AreTrees es

end

variable {es : List (String × Entry)} {n : String} {e : Entry}

theorem AreTrees.of_mem (h : AreTrees es) (he : (n, e) ∈ es) : IsFileName n ∧ e.IsTree ∧ es.lookup n = some e := by
  induction es with
  | nil => cases he
  | cons b es ih =>
    obtain ⟨m, f⟩ := b
    rw [AreTrees] at h
    obtain ⟨hm, hnone, hf, hes⟩ := h
    rcases List.mem_cons.1 he with heq | he
    · cases heq
      exact ⟨hm, hf, List.lookup_cons_self⟩
    · obtain ⟨hn, htree, hlookup⟩ := ih hes he
      refine ⟨hn, htree, ?_⟩
      -- the name of an entry does not come again behind it
      have hne : (n == m) = false := by
        refine beq_eq_false_iff_ne.2 ?_
        rintro rfl
        cases hnone.symm.trans hlookup
      rw [List.lookup_cons, hne]
      exact hlookup

private theorem mem_of_lookup (h : es.lookup n = some e) : (n, e) ∈ es := by
  obtain ⟨before, after, rfl, -⟩ := List.lookup_eq_some_iff.1 h
  exact List.mem_append_right _ (List.mem_cons_self ..)

private theorem AreTrees.of_lookup (h : AreTrees es) (he : es.lookup n = some e) : IsFileName n ∧ e.IsTree := by
  obtain ⟨hn, htree, -⟩ := h.of_mem (mem_of_lookup he)
  exact ⟨hn, htree⟩

private theorem at?_cons_eq_some {ns : Location} {f : Entry} :
    (directory es).at? (n :: ns) = some f ↔ ∃ e, es.lookup n = some e ∧ e.at? ns = some f := by
  rw [at?_cons, entries, Option.bind_eq_some_iff]

theorem IsTree.of_at? {names : Location} (h : e.IsTree) {f : Entry} (hf : e.at? names = some f) : f.IsTree := by
  induction names generalizing e with
  | nil =>
    cases (Entry.at?.eq_1 e).symm.trans hf
    exact h
  | cons n ns ih =>
    cases e with
    | file c => cases hf
    | link t => cases hf
    | directory es =>
      rw [IsTree] at h
      obtain ⟨g, hg, hf⟩ := at?_cons_eq_some.1 hf
      exact ih (h.of_lookup hg).2 hf

private theorem IsTree.areFileNames {names : Location} (h : e.IsTree) {f : Entry} (hf : e.at? names = some f) :
    ∀ n ∈ names, IsFileName n := by
  induction names generalizing e with
  | nil => exact nofun
  | cons n ns ih =>
    cases e with
    | file c => cases hf
    | link t => cases hf
    | directory es =>
      rw [IsTree] at h
      obtain ⟨g, hg, hf⟩ := at?_cons_eq_some.1 hf
      obtain ⟨hn, htree⟩ := h.of_lookup hg
      exact List.forall_mem_cons.2 ⟨hn, ih htree hf⟩

end Files.Entry

namespace Dataset

open Files Files.Entry

variable {s : FileSystem} {wanted : List String} {directory : String} {es : List (String × Entry)}

/-! ## Which names are wanted -/

/-- `name` ends in a point and one of the extensions `wanted`, whatever the case of their ASCII letters. -/
def HasExtension (wanted : List String) (name : String) : Prop :=
  ∃ stem ext w, name.toList = stem ++ '.' :: ext ∧ stem ≠ [] ∧ '.' ∉ ext ∧ w ∈ wanted ∧
    w.toList.map Text.lowerAscii = ext.map Text.lowerAscii

/-- The extension `e` is what stands behind the last point of `name`, if anything is before it. -/
theorem extension?_eq_some_iff {name e : String} : Path.extension? name = some e ↔
    ∃ stem, name.toList = stem ++ '.' :: e.toList ∧ stem ≠ [] ∧ '.' ∉ e.toList := by
  rw [Path.extension?]
  constructor
  · intro h
    -- the run is that of the name read backwards
    obtain ⟨ext, before, hname, htake, hdrop, hext, hstop⟩ := Text.exists_span (· != '.') name.toList.reverse
    rw [Text.drop_length_takeWhile, htake, hdrop] at h
    split at h
    · cases h
    · cases h
    · rename_i hnil hone
      cases h
      obtain ⟨c, cs, rfl⟩ := List.exists_cons_of_ne_nil hnil
      obtain rfl : c = '.' := by simpa using hstop c rfl
      rw [String.toList_ofList]
      refine ⟨cs.reverse, ?_, ?_, fun h => ?_⟩
      · rw [← List.reverse_reverse name.toList, hname, List.reverse_append, List.reverse_cons, List.append_assoc,
          List.singleton_append]
      · exact fun h => hone _ (by rw [List.reverse_eq_nil_iff.1 h])
      · simpa using hext _ (List.mem_reverse.1 h)
  · rintro ⟨stem, hname, hstem, hpoint⟩
    obtain ⟨c, cs, hcs⟩ := List.exists_cons_of_ne_nil (List.reverse_ne_nil_iff.2 hstem)
    have hreverse : name.toList.reverse = e.toList.reverse ++ '.' :: c :: cs := by
      rw [hname, List.reverse_append, List.reverse_cons, List.append_assoc, hcs]
      rfl
    have hrun : ∀ d ∈ e.toList.reverse, (d != '.') = true := by
      intro d hd
      rw [bne_iff_ne]
      rintro rfl
      exact hpoint (List.mem_reverse.1 hd)
    rw [Text.drop_length_takeWhile, hreverse, (Text.span_append_cons hrun (by decide)).1,
      (Text.span_append_cons hrun (by decide)).2]
    dsimp only
    rw [List.reverse_reverse, String.ofList_toList]

theorem isWanted_iff {name : String} : isWanted wanted name = true ↔ HasExtension wanted name := by
  rw [isWanted]
  constructor
  · intro h
    split at h
    · cases h
    · rename_i e he
      obtain ⟨stem, hname, hstem, hpoint⟩ := extension?_eq_some_iff.1 he
      obtain ⟨w, hw, hsame⟩ := List.any_eq_true.1 h
      exact ⟨stem, e.toList, w, hname, hstem, hpoint, hw, eq_of_beq hsame⟩
  · rintro ⟨stem, ext, w, hname, hstem, hpoint, hw, hsame⟩
    have he : Path.extension? name = some (String.ofList ext) := by
      refine extension?_eq_some_iff.2 ⟨stem, ?_⟩
      rw [String.toList_ofList]
      exact ⟨hname, hstem, hpoint⟩
    rw [he]
    refine List.any_eq_true.2 ⟨w, hw, ?_⟩
    rw [String.toList_ofList, hsame, beq_self_eq_true]

theorem isHidden_eq_false_iff {name : String} : isHidden name = false ↔ name.toList.head? ≠ some '.' :=
  beq_eq_false_iff_ne

/-! ## Which directories are looked into -/

/-- There is a directory under `names`, and neither it nor one on the way to it is hidden. -/
def IsVisible (es : List (String × Entry)) (names : List String) : Prop :=
  (∀ n ∈ names, n.toList.head? ≠ some '.') ∧ ∃ fs, (Entry.directory es).at? names = some (.directory fs)

theorem isVisible_cons {n : String} {ns : List String} : IsVisible es (n :: ns) ↔
    n.toList.head? ≠ some '.' ∧ ∃ fs, es.lookup n = some (.directory fs) ∧ IsVisible fs ns := by
  rw [IsVisible, List.forall_mem_cons, and_assoc]
  refine and_congr_right fun _ => ⟨?_, ?_⟩
  · rintro ⟨hns, gs, hgs⟩
    obtain ⟨e, he, hgs⟩ := at?_cons_eq_some.1 hgs
    obtain ⟨fs, rfl⟩ : ∃ fs, e = .directory fs := by
      cases ns with
      | nil => exact ⟨gs, Option.some.inj ((Entry.at?.eq_1 e).symm.trans hgs)⟩
      | cons m ms =>
        cases e with
        | directory fs => exact ⟨fs, rfl⟩
        | file c => cases hgs
        | link t => cases hgs
    exact ⟨fs, he, hns, gs, hgs⟩
  · rintro ⟨fs, he, hns, gs, hgs⟩
    exact ⟨hns, gs, at?_cons_eq_some.2 ⟨_, he, hgs⟩⟩

theorem directoriesIn_eq_flatMap (es : List (String × Entry)) :
    directoriesIn es = es.flatMap fun b => directoriesAt b.1 b.2 := by
  induction es with
  | nil => rfl
  | cons b es ih => rw [directoriesIn, List.flatMap_cons, ih]

private theorem mem_directoriesIn {d : List String} :
    d ∈ directoriesIn es ↔ ∃ n e, (n, e) ∈ es ∧ d ∈ directoriesAt n e := by
  rw [directoriesIn_eq_flatMap, List.mem_flatMap, Prod.exists]

/-- `directoriesIn` are the directories that are visible. -/
theorem mem_directoriesIn_iff_isVisible (h : AreTrees es) {d : List String} :
    d ∈ directoriesIn es ↔ d ≠ [] ∧ IsVisible es d := by
  -- down the names, each of them looked up in the directory that those before it lead to
  induction d generalizing es with
  | nil =>
    refine iff_of_false (fun hd => ?_) fun hd => hd.1 rfl
    obtain ⟨n, e, -, hd⟩ := mem_directoriesIn.1 hd
    cases e with
    | directory fs => obtain ⟨-, hd | ⟨d', -, hd⟩⟩ := mem_directoriesAt_directory.1 hd <;> cases hd
    | file c => cases hd
    | link t => cases hd
  | cons n ns ih =>
    rw [isVisible_cons, and_iff_right (List.cons_ne_nil n ns), mem_directoriesIn]
    constructor
    · rintro ⟨m, e, he, hd⟩
      obtain ⟨-, htree, hlookup⟩ := h.of_mem he
      cases e with
      | file c => cases hd
      | link t => cases hd
      | directory fs =>
        obtain ⟨hhidden, hd | ⟨d', hd', hd⟩⟩ := mem_directoriesAt_directory.1 hd
        · cases hd
          exact ⟨isHidden_eq_false_iff.1 hhidden, fs, hlookup, nofun, fs, rfl⟩
        · cases hd
          exact ⟨isHidden_eq_false_iff.1 hhidden, fs, hlookup, ((ih htree).1 hd').2⟩
    · rintro ⟨hhidden, fs, hlookup, hns⟩
      have he := mem_of_lookup hlookup
      refine ⟨n, _, he, mem_directoriesAt_directory.2 ⟨isHidden_eq_false_iff.2 hhidden, ?_⟩⟩
      cases ns with
      | nil => exact .inl rfl
      | cons m ms => exact .inr ⟨_, (ih (h.of_mem he).2.1).2 ⟨List.cons_ne_nil m ms, hns⟩, rfl⟩

/-! ## Which files are collected -/

/-- The file under `names` is to be collected: it has one of the extensions `wanted`, it is no directory and no link
to one, and the directories on the way to it are not hidden. -/
structure IsCollectible (s : FileSystem) (wanted : List String) (directory : String) (es : List (String × Entry))
    (names : List String) : Prop where
  visible : ∀ n ∈ names.dropLast, n.toList.head? ≠ some '.'
  extension : ∃ n, names.getLast? = some n ∧ HasExtension wanted n
  isFile : ∃ e, (Entry.directory es).at? names = some e ∧ (∀ fs, e ≠ .directory fs) ∧
    ∀ t, e = .link t → s.isDirectory (pathOf directory names) = false

private theorem isCollectible_singleton {n : String} : IsCollectible s wanted directory es [n] ↔
    HasExtension wanted n ∧ ∃ e, es.lookup n = some e ∧ (∀ fs, e ≠ .directory fs) ∧
      ∀ t, e = .link t → s.isDirectory (Path.join directory n) = false := by
  constructor
  · rintro ⟨-, ⟨m, hm, hext⟩, e, he, hfile, hlink⟩
    cases hm
    obtain ⟨f, hf, he⟩ := at?_cons_eq_some.1 he
    cases (Entry.at?.eq_1 f).symm.trans he
    exact ⟨hext, e, hf, hfile, hlink⟩
  · rintro ⟨hext, e, he, hfile, hlink⟩
    exact ⟨fun _ h => absurd h List.not_mem_nil, ⟨n, rfl, hext⟩, e, at?_cons_eq_some.2 ⟨e, he, Entry.at?.eq_1 e⟩, hfile, hlink⟩

private theorem isCollectible_cons_cons {n m : String} {ms : List String} :
    IsCollectible s wanted directory es (n :: m :: ms) ↔
      n.toList.head? ≠ some '.' ∧ ∃ fs, es.lookup n = some (.directory fs) ∧
        IsCollectible s wanted (Path.join directory n) fs (m :: ms) := by
  constructor
  · rintro ⟨hvisible, hext, e, he, hfile⟩
    obtain ⟨hn, hms⟩ := List.forall_mem_cons.1 hvisible
    obtain ⟨f, hf, he⟩ := at?_cons_eq_some.1 he
    cases f with
    | file c => cases he
    | link t => cases he
    | directory fs => exact ⟨hn, fs, hf, hms, hext, e, he, hfile⟩
  · rintro ⟨hn, fs, hf, hms, hext, e, he, hfile⟩
    exact ⟨List.forall_mem_cons.2 ⟨hn, hms⟩, hext, e, at?_cons_eq_some.2 ⟨_, hf, he⟩, hfile⟩

variable (s wanted directory) in
theorem filesIn_eq_flatMap (es : List (String × Entry)) :
    filesIn s wanted directory es = es.flatMap fun b => filesAt s wanted directory b.1 b.2 := by
  induction es with
  | nil => rfl
  | cons b es ih => rw [filesIn, List.flatMap_cons, ih]

private theorem mem_filesIn {names : List String} : names ∈ filesIn s wanted directory es ↔
    ∃ n e, (n, e) ∈ es ∧ names ∈ filesAt s wanted directory n e := by
  rw [filesIn_eq_flatMap, List.mem_flatMap, Prod.exists]

/-- What the entry `e` leads to: what is below it if it is a directory that is not hidden, or else its own name `n`.
-/
theorem mem_filesAt {n : String} {e : Entry} {names : List String} :
    names ∈ filesAt s wanted directory n e ↔
      (∃ fs ns, e = .directory fs ∧ isHidden n = false ∧ ns ∈ filesIn s wanted (Path.join directory n) fs ∧
        names = n :: ns) ∨
      ((∀ fs, e ≠ .directory fs) ∧ isWanted wanted n = true ∧
        (∀ t, e = .link t → s.isDirectory (Path.join directory n) = false) ∧ names = [n]) := by
  cases e with
  | directory fs =>
    rw [filesAt]
    cases isHidden n with
    | true => simp
    | false =>
      rw [if_neg Bool.false_ne_true, List.mem_map]
      constructor
      · rintro ⟨ns, hns, rfl⟩
        exact .inl ⟨fs, ns, rfl, rfl, hns, rfl⟩
      · rintro (⟨_, ns, hfs, -, hns, rfl⟩ | ⟨hfile, -⟩)
        · cases hfs
          exact ⟨ns, hns, rfl⟩
        · exact absurd rfl (hfile fs)
  | file c =>
    rw [filesAt]
    cases isWanted wanted n <;> simp
  | link t =>
    rw [filesAt]
    cases s.isDirectory (Path.join directory n) <;> cases isWanted wanted n <;> simp

private theorem head?_of_mem_filesAt {n : String} {e : Entry} {names : List String}
    (h : names ∈ filesAt s wanted directory n e) : names.head? = some n := by
  rcases mem_filesAt.1 h with ⟨fs, ns, -, -, -, rfl⟩ | ⟨-, -, -, rfl⟩
  · rfl
  · rfl

private theorem ne_nil_of_mem_filesIn {names : List String} (h : names ∈ filesIn s wanted directory es) :
    names ≠ [] := by
  obtain ⟨n, e, -, h⟩ := mem_filesIn.1 h
  rintro rfl
  cases head?_of_mem_filesAt h

/-- `filesIn` are the files that are to be collected. -/
theorem mem_filesIn_iff_isCollectible (h : AreTrees es) {names : List String} :
    names ∈ filesIn s wanted directory es ↔ IsCollectible s wanted directory es names := by
  induction names generalizing directory es with
  | nil => exact iff_of_false (fun h => ne_nil_of_mem_filesIn h rfl) fun h => nomatch h.extension
  | cons n ns ih =>
    rw [mem_filesIn]
    -- the last name is that of the file, and any other one that of a directory
    cases ns with
    | nil =>
      rw [isCollectible_singleton]
      constructor
      · rintro ⟨m, e, he, hmem⟩
        rcases mem_filesAt.1 hmem with ⟨fs, ns, -, -, hns, hnames⟩ | ⟨hfile, hwanted, hlink, hnames⟩
        · cases hnames
          exact absurd rfl (ne_nil_of_mem_filesIn hns)
        · cases hnames
          exact ⟨isWanted_iff.1 hwanted, e, (h.of_mem he).2.2, hfile, hlink⟩
      · rintro ⟨hext, e, he, hfile, hlink⟩
        exact ⟨n, e, mem_of_lookup he, mem_filesAt.2 (.inr ⟨hfile, isWanted_iff.2 hext, hlink, rfl⟩)⟩
    | cons m ms =>
      rw [isCollectible_cons_cons]
      constructor
      · rintro ⟨k, e, he, hmem⟩
        rcases mem_filesAt.1 hmem with ⟨fs, ns, rfl, hhidden, hns, hnames⟩ | ⟨-, -, -, hnames⟩
        · cases hnames
          obtain ⟨-, htree, hlookup⟩ := h.of_mem he
          exact ⟨isHidden_eq_false_iff.1 hhidden, fs, hlookup, (ih htree).1 hns⟩
        · cases hnames
      · rintro ⟨hhidden, fs, hlookup, hms⟩
        have he := mem_of_lookup hlookup
        have hbelow := (ih (h.of_mem he).2.1).2 hms
        exact ⟨n, _, he, mem_filesAt.2 (.inl ⟨fs, _, rfl, isHidden_eq_false_iff.2 hhidden, hbelow, rfl⟩)⟩

/-! ## Each file once, in order -/

mutual

theorem nodup_filesAt {directory n : String} : ∀ {e : Entry}, e.IsTree → (filesAt s wanted directory n e).Nodup
  | .directory es, h => by
    rw [filesAt]
    split
    · exact List.nodup_nil
    · exact (nodup_filesIn h).map List.cons_injective
  | .link t, _ => by
    rw [filesAt]
    split
    · exact List.nodup_nil
    · split
      · exact List.nodup_singleton _
      · exact List.nodup_nil
  | .file c, _ => by
    rw [filesAt]
    split
    · exact List.nodup_singleton _
    · exact List.nodup_nil

private theorem nodup_filesIn {directory : String} : ∀ {es : List (String × Entry)},
    AreTrees es → (filesIn s wanted directory es).Nodup
  | [], _ => List.nodup_nil
  | (n, e) :: es, h => by
    obtain ⟨-, hnone, he, hes⟩ := h
    rw [filesIn]
    refine List.nodup_append.2 ⟨nodup_filesAt he, nodup_filesIn hes, fun as has bs hbs hsame => ?_⟩
    -- what two names lead to begins differently
    obtain ⟨m, f, hf, hbs⟩ := mem_filesIn.1 hbs
    have hhead := (head?_of_mem_filesAt has).symm.trans (hsame ▸ head?_of_mem_filesAt hbs)
    cases hhead
    cases hnone.symm.trans (hes.of_mem hf).2.2

end

private theorem lex_of_inOrder {as bs : List String} (h : inOrder as bs = true) (hne : as ≠ bs) :
    List.Lex (· < ·) as bs :=
  (List.le_iff_lt_or_eq.1 (inOrder_iff.1 h)).resolve_right hne

/-- Sorted names without repetition increase. -/
theorem pairwise_lex_mergeSort {as : List (List String)} (h : as.Nodup) :
    (as.mergeSort inOrder).Pairwise (List.Lex (· < ·)) :=
  ((List.pairwise_mergeSort inOrder_trans inOrder_total as).and ((List.mergeSort_perm as _).nodup_iff.2 h)).imp
    fun h => lex_of_inOrder h.1 h.2

/-- `ps` are the paths of all files that are to be collected under `root`, each once and in order. -/
structure IsCollection (s : FileSystem) (wanted : List String) (root : String) (es : List (String × Entry))
    (ps : List String) : Prop where
  increasing : ps.Pairwise Path.Precedes
  mem_iff : ∀ p, p ∈ ps ↔ ∃ names, IsCollectible s wanted root es names ∧ p = pathOf root names

theorem IsCollection.nodup {root : String} {ps : List String} (h : IsCollection s wanted root es ps) : ps.Nodup :=
  h.increasing.nodup

/-- There is only one collection `ps` under `root`. -/
theorem IsCollection.unique {root : String} {ps qs : List String} (hp : IsCollection s wanted root es ps)
    (hq : IsCollection s wanted root es qs) : ps = qs :=
  hp.increasing.eq_of_mem_iff hq.increasing fun p => (hp.mem_iff p).trans (hq.mem_iff p).symm

theorem IsCollectible.areNames {names : List String} (hes : AreTrees es)
    (h : IsCollectible s wanted directory es names) : ∀ n ∈ names, Path.IsName n := by
  obtain ⟨e, he, -⟩ := h.isFile
  exact fun n hn => ((show (Entry.directory es).IsTree from hes).areFileNames he n hn).toIsName

theorem isCollection_mergeSort {root : String} (hroot : root.toList ≠ []) (hes : AreTrees es) :
    IsCollection s wanted root es (((filesIn s wanted root es).mergeSort inOrder).map (pathOf root)) where
  increasing := by
    rw [List.pairwise_map]
    refine (pairwise_lex_mergeSort (nodup_filesIn hes)).imp_of_mem fun has hbs h => ?_
    rw [List.mem_mergeSort, mem_filesIn_iff_isCollectible hes] at has hbs
    exact Path.precedes_pathOf hroot (has.areNames hes) (hbs.areNames hes) h
  mem_iff := by
    intro p
    simp only [List.mem_map, List.mem_mergeSort, mem_filesIn_iff_isCollectible hes, eq_comm]

end Dataset

end DatasetLint
