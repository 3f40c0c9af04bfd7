import DatasetLint.Proofs.Check.Flaws
import DatasetLint.Proofs.Check.Independence
import DatasetLint.Proofs.Dataset.Names
import DatasetLint.Proofs.Text.Prefix

/-!
# Files that are no text

The check of encoding reads one collected file after the other. If all of them can be read, a file that encodes no
text has one problem, which is always an error and says how far the file does encode one; and a text has flaws, as
serious as the settings make them. The first file that cannot be read, such as a link to nothing, ends the check,
and then nothing is found in any file.
-/

namespace DatasetLint.Check

open Files

/-! ## Findings by file -/

section Gather

variable {look : String → Except FileFault (List Finding)} {p r : String} {ps : List String} {fs gs : List Finding}

private theorem gather_cons_eq_ok : gather look (p :: ps) = .ok fs ↔
    ∃ gs hs, look p = .ok gs ∧ gather look ps = .ok hs ∧ fs = gs ++ hs := by
  rw [gather]
  cases look p with
  | error e => simp
  | ok gs => cases gather look ps <;> simp [Except.map, eq_comm]

/-- If `look` can look at all of `ps`, `gather` finds something, be it nothing. -/
theorem exists_gather_eq_ok (h : ∀ p ∈ ps, ∃ gs, look p = .ok gs) : ∃ fs, gather look ps = .ok fs := by
  induction ps with
  | nil => exact ⟨[], rfl⟩
  | cons p ps ih =>
    obtain ⟨gs, hgs⟩ := h p (List.mem_cons_self ..)
    obtain ⟨hs, hhs⟩ := ih fun q hq => h q (List.mem_cons_of_mem _ hq)
    exact ⟨gs ++ hs, gather_cons_eq_ok.2 ⟨gs, hs, hgs, hhs, rfl⟩⟩

/-- The first file `p` that `look` cannot look at is the end. -/
theorem gather_eq_error {before : List String} {e : FileFault} (hbefore : ∀ q ∈ before, ∃ gs, look q = .ok gs)
    (hp : look p = .error e) (after : List String) :
    gather look (before ++ p :: after) = .error (.failed [e.message]) := by
  induction before with
  | nil => rw [List.nil_append, gather, hp]
  | cons q before ih =>
    obtain ⟨gs, hgs⟩ := hbefore q (List.mem_cons_self ..)
    rw [List.cons_append, gather, hgs, ih fun q hq => hbefore q (List.mem_cons_of_mem _ hq)]
    rfl

private theorem about_gather_eq_nil (h : gather look ps = .ok fs)
    (hothers : ∀ q ∈ ps, ∀ gs, look q = .ok gs → Finding.about r gs = []) : Finding.about r fs = [] := by
  induction ps generalizing fs with
  | nil =>
    cases h
    rfl
  | cons q ps ih =>
    obtain ⟨gs, hs, hgs, hhs, rfl⟩ := gather_cons_eq_ok.1 h
    rw [Finding.about_append, hothers q (List.mem_cons_self ..) gs hgs,
      ih hhs fun q hq => hothers q (List.mem_cons_of_mem _ hq), List.append_nil]

/-- What `gather` finds about `r` is what `look` finds in the only file `p` that has findings about it. -/
theorem about_gather (h : gather look ps = .ok fs) (hp : look p = .ok gs) (hmem : p ∈ ps) (hps : ps.Nodup)
    (hothers : ∀ q ∈ ps, q ≠ p → ∀ gs, look q = .ok gs → Finding.about r gs = []) :
    Finding.about r fs = Finding.about r gs := by
  induction ps generalizing fs with
  | nil => cases hmem
  | cons q ps ih =>
    obtain ⟨hq, hps⟩ := List.nodup_cons.1 hps
    have htail : ∀ q ∈ ps, q ≠ p → ∀ gs, look q = .ok gs → Finding.about r gs = [] :=
      fun q hq => hothers q (List.mem_cons_of_mem _ hq)
    obtain ⟨gs', hs, hgs', hhs, rfl⟩ := gather_cons_eq_ok.1 h
    rw [Finding.about_append]
    -- once the file is met, none behind it has findings about the resource
    by_cases hqp : q = p
    · subst hqp
      cases hp.symm.trans hgs'
      have hrest := about_gather_eq_nil hhs fun q' hq' => htail q' hq' fun heq => hq (heq ▸ hq')
      rw [hrest, List.append_nil]
    · rw [hothers q (List.mem_cons_self ..) hqp gs' hgs', List.nil_append]
      exact ih hhs ((List.mem_cons.1 hmem).resolve_left fun heq => hqp heq.symm) hps htail

end Gather

private theorem about_findings_self (x : Context) (p : String) (ps : List Problem) :
    Finding.about (Path.nameBelow x.target p) (findings x p ps) = ps := by
  rw [findings, Finding.about_bucket _ (Path.nameBelow x.target p, ps), if_pos rfl]

namespace Encoding

variable {x : Context} {s : Settings} {ps : List String}

private theorem look_eq_ok {p : String} {b : ByteArray} (h : x.files.read p = .ok b) :
    look x s p = .ok (findings x p (fileProblems s b)) := by
  rw [look, h]
  rfl

private theorem exists_of_look_eq_ok {p : String} {gs : List Finding} (h : look x s p = .ok gs) :
    ∃ qs, gs = findings x p qs := by
  rw [look] at h
  cases hread : x.files.read p with
  | error e => rw [hread] at h; cases h
  | ok b =>
    rw [hread] at h
    cases h
    exact ⟨_, rfl⟩

private theorem find_eq_gather (h : Dataset.files x.files x.target s.extensions = .ok ps) :
    find x s = gather (look x s) ps := by
  rw [find_eq_gatherUnder, gatherUnder, h]

/-- What `find` says about a collected file are its own `fileProblems`. -/
theorem about_find (htree : x.files.root.IsTree) (h : Dataset.files x.files x.target s.extensions = .ok ps)
    {fs : List Finding} (hfind : find x s = .ok fs) {p : String} (hp : p ∈ ps) {b : ByteArray}
    (hb : x.files.read p = .ok b) : Finding.about (Path.nameBelow x.target p) fs = fileProblems s b := by
  obtain ⟨-, es, -, -, hps⟩ := Dataset.isCollection_of_files htree h
  rw [find_eq_gather h] at hfind
  rw [about_gather hfind (look_eq_ok hb) hp hps.nodup, about_findings_self]
  rintro q hq hne gs hgs
  obtain ⟨qs, rfl⟩ := exists_of_look_eq_ok hgs
  exact about_findings_of_ne (fun heq => hne (Dataset.nameBelow_inj htree h hq hp heq.symm)) qs

/-! ## What is wrong with a file -/

private theorem fileProblems_of_not_isValidUTF8 (s : Settings) {b : ByteArray} (h : ¬b.IsValidUTF8) : fileProblems s b =
    [⟨.error, "not valid UTF-8 (byte offset " ++ toString (Text.Utf8.validLength b) ++ ")"⟩] := by
  rw [fileProblems, Text.Utf8.decode_eq_none_iff.2 h]

/-- The problems of a text are flaws, as serious as `s` says. -/
theorem exists_flaw_of_mem_fileProblems {b : ByteArray} (h : b.IsValidUTF8) {q : Problem} (hq : q ∈ fileProblems s b) :
    ∃ f : Flaw, q = f.problem s := by
  obtain ⟨t, rfl⟩ := Text.Utf8.exists_toUTF8_of_isValidUTF8 h
  rw [fileProblems_eq] at hq
  obtain ⟨f, -, rfl⟩ := List.mem_map.1 hq
  exact ⟨f, rfl⟩

/-- If all `ps` can be read, the check comes to its end, with what `fileProblems` says of each. -/
theorem exists_find_eq_ok (htree : x.files.root.IsTree) (h : Dataset.files x.files x.target s.extensions = .ok ps)
    (hread : ∀ p ∈ ps, ∃ b, x.files.read p = .ok b) : ∃ fs, find x s = .ok fs ∧
      ∀ p ∈ ps, ∀ b, x.files.read p = .ok b → Finding.about (Path.nameBelow x.target p) fs = fileProblems s b := by
  obtain ⟨fs, hfs⟩ : ∃ fs, gather (look x s) ps = .ok fs := by
    refine exists_gather_eq_ok fun p hp => ?_
    obtain ⟨b, hb⟩ := hread p hp
    exact ⟨_, look_eq_ok hb⟩
  rw [← find_eq_gather h] at hfs
  exact ⟨fs, hfs, fun p hp b hb => about_find htree h hfs hp hb⟩

/-- The first of `ps` that cannot be read ends the check with its own fault `e`. -/
theorem find_eq_error (h : Dataset.files x.files x.target s.extensions = .ok ps) {before after : List String}
    {p : String} {e : FileFault} (hps : ps = before ++ p :: after)
    (hbefore : ∀ q ∈ before, ∃ b, x.files.read q = .ok b) (hp : x.files.read p = .error e) :
    find x s = .error (.failed [e.message]) := by
  rw [find_eq_gather h, hps]
  refine gather_eq_error (fun q hq => ?_) ?_ after
  · obtain ⟨b, hb⟩ := hbefore q hq
    exact ⟨_, look_eq_ok hb⟩
  · rw [look, hp]
    rfl

/-- If all collected files `ps` of a tree can be read, `find` comes to its end. Then a file whose octets `b` encode
no text has exactly one problem. It is an error, whatever `s` is, and says the length `k` of the longest prefix of
`b` that does encode a text. In a file that encodes one no error is found, unless `s` says that flaws are errors.
The first of `ps` that cannot be read ends the check with its own fault `e`. -/
theorem find_locates (htree : x.files.root.IsTree) (h : Dataset.files x.files x.target s.extensions = .ok ps) :
    ((∀ p ∈ ps, ∃ b, x.files.read p = .ok b) → ∃ fs, find x s = .ok fs ∧
      ∀ p ∈ ps, ∀ b, x.files.read p = .ok b →
        (¬b.IsValidUTF8 → ∃ k, IsGreatest {n | n ≤ b.size ∧ (b.extract 0 n).IsValidUTF8} k ∧ k < b.size ∧
          Finding.about (Path.nameBelow x.target p) fs =
            [⟨.error, "not valid UTF-8 (byte offset " ++ toString k ++ ")"⟩]) ∧
        (b.IsValidUTF8 → ∀ q ∈ Finding.about (Path.nameBelow x.target p) fs, q.severity = .error →
          s.severity = .error ∧ ∃ f : Flaw, q = f.problem s)) ∧
    ∀ before p after e, ps = before ++ p :: after → (∀ q ∈ before, ∃ b, x.files.read q = .ok b) →
      x.files.read p = .error e → find x s = .error (.failed [e.message]) := by
  refine ⟨fun hread => ?_, fun before p after e => find_eq_error h⟩
  obtain ⟨fs, hfs, habout⟩ := exists_find_eq_ok htree h hread
  refine ⟨fs, hfs, fun p hp b hb => ?_⟩
  rw [habout p hp b hb]
  refine ⟨fun hinvalid => ?_, fun hvalid q hq herror => ?_⟩
  · exact ⟨Text.Utf8.validLength b, Text.Utf8.isGreatest_validLength b, Text.Utf8.validLength_lt hinvalid,
      fileProblems_of_not_isValidUTF8 s hinvalid⟩
  · obtain ⟨f, rfl⟩ := exists_flaw_of_mem_fileProblems hvalid hq
    exact ⟨herror, f, rfl⟩

/-! ### A file with half a character, beside another one -/

/-- A letter and two of the three octets of a character. -/
def halved : ByteArray := ⟨#[0x61, 0xe2, 0x82]⟩

/-- Two entries under the names of files: the file `halved`, which is no text, and `e`. -/
def besideHalved (e : Entry) : Context where
  parameters := .default
  target := "."
  files := ⟨.directory [("a.ttl", .file halved), ("b.ttl", e)], []⟩

private theorem resolve_besideHalved (e : Entry) :
    (besideHalved e).files.resolve "." = .ok (.found [] (besideHalved e).files.root) := by
  have hsteps : Path.steps "." = [.here] := by decide
  refine FileSystem.resolve_eq_ok_iff.2 ⟨by decide, by decide, by decide, ?_⟩
  rw [hsteps]
  exact .here rfl (.found rfl)

private theorem read_besideHalved (e : Entry) {n : String} {b : ByteArray} (hn : FileSystem.IsFileName n)
    (hb : [("a.ttl", .file halved), ("b.ttl", e)].lookup n = some (.file b))
    (hlength : (Path.join "." n).utf8ByteSize < FileSystem.pathLimit) :
    (besideHalved e).files.read (Path.join "." n) = .ok b := by
  have hresolve := FileSystem.resolve_join (resolve_besideHalved e) hn hb nofun hlength
  rw [FileSystem.read, FileSystem.entry, hresolve]

private theorem read_halved (e : Entry) : (besideHalved e).files.read "./a.ttl" = .ok halved := by
  have hjoin : Path.join "." "a.ttl" = "./a.ttl" := by decide
  exact hjoin ▸ read_besideHalved e (n := "a.ttl") (by decide) rfl (by decide)

private theorem files_besideHalved {e : Entry}
    (hfiles : Dataset.filesAt (besideHalved e).files Dataset.extensions "." "b.ttl" e =
      [["b.ttl"]]) (hdirectories : Dataset.directoriesAt "b.ttl" e = []) :
    Dataset.files (besideHalved e).files "." Dataset.extensions = .ok ["./a.ttl", "./b.ttl"] := by
  have hshort : (Dataset.directoriesIn [("a.ttl", .file halved), ("b.ttl", e)]).any (Dataset.isTooLong ".") = false := by
    rw [Dataset.directoriesIn, Dataset.directoriesIn, Dataset.directoriesIn, hdirectories]
    rfl
  have hin : Dataset.filesIn (besideHalved e).files Dataset.extensions "." [("a.ttl", .file halved), ("b.ttl", e)] =
      [["a.ttl"], ["b.ttl"]] := by
    rw [Dataset.filesIn, Dataset.filesIn, Dataset.filesIn, hfiles, Dataset.filesAt, if_pos (by decide)]
    rfl
  have hsorted : [["a.ttl"], ["b.ttl"]].mergeSort Dataset.inOrder = [["a.ttl"], ["b.ttl"]] :=
    List.mergeSort_of_pairwise (by decide)
  rw [Dataset.files_of_not_tooLong _ (resolve_besideHalved e) hshort, hin, hsorted]
  rfl

private theorem isTree_besideHalved {e : Entry} (he : e.IsTree) : (besideHalved e).files.root.IsTree :=
  ⟨by decide, rfl, trivial, by decide, rfl, he, trivial⟩

private theorem not_isValidUTF8_halved : ¬halved.IsValidUTF8 := by decide

/-- The entry beside `halved` is a link to nothing. -/
def besideNowhere : Context := besideHalved (.link "nowhere")

private theorem entry_nowhere : besideNowhere.files.entry "./b.ttl" = .error .notFound := by
  have hresolve : besideNowhere.files.resolve "./b.ttl" = .ok (.absent ["nowhere"]) := by
    have hsteps : Path.steps "./b.ttl" = [.here, .name "b.ttl"] := by decide
    have htarget : Path.steps "nowhere" ++ [] = [.name "nowhere"] := by decide
    refine FileSystem.resolve_eq_ok_iff.2 ⟨by decide, by decide, by decide, ?_⟩
    rw [hsteps]
    refine .here rfl (.link rfl (by decide) rfl (by decide) ?_)
    rw [htarget]
    exact .absent rfl (by decide) rfl
  rw [FileSystem.entry, hresolve]

private theorem read_nowhere : besideNowhere.files.read "./b.ttl" = .error .notFound := by
  rw [FileSystem.read, entry_nowhere]

/-- A link to nothing is no directory, and so it is collected under the name of a file. -/
theorem files_besideNowhere :
    Dataset.files besideNowhere.files "." Dataset.extensions = .ok ["./a.ttl", "./b.ttl"] := by
  refine files_besideHalved (e := .link "nowhere") ?_ rfl
  have hjoin : Path.join "." "b.ttl" = "./b.ttl" := by decide
  have hentry : (besideHalved (.link "nowhere")).files.entry "./b.ttl" = .error .notFound := entry_nowhere
  rw [Dataset.filesAt, hjoin, FileSystem.isDirectory, hentry]
  decide

/-- Beside a text with a blank before its line feed, half a character is found behind the letter; in `besideNowhere`
it is not. -/
theorem find_locates_halved : (∃ fs, find (besideHalved (.file " \n".toUTF8)) .default = .ok fs ∧
      ∃ k, IsGreatest {n | n ≤ halved.size ∧ (halved.extract 0 n).IsValidUTF8} k ∧ k < halved.size ∧
        Finding.about "a.ttl" fs = [⟨.error, "not valid UTF-8 (byte offset " ++ toString k ++ ")"⟩]) ∧
    find besideNowhere .default = .error (.failed [FileFault.notFound.message]) := by
  constructor
  · have hfiles := files_besideHalved (e := .file " \n".toUTF8) (by decide) rfl
    have hjoin : Path.join "." "b.ttl" = "./b.ttl" := by decide
    have hread := read_besideHalved (.file " \n".toUTF8) (n := "b.ttl") (by decide) rfl (by decide)
    rw [hjoin] at hread
    have hname : Path.nameBelow "." "./a.ttl" = "a.ttl" := by decide
    obtain ⟨hfound, -⟩ := find_locates (x := besideHalved (.file " \n".toUTF8)) (s := .default)
      (isTree_besideHalved trivial) hfiles
    obtain ⟨fs, hfs, hspec⟩ := hfound fun p hp => by
      rcases List.mem_cons.1 hp with rfl | hp
      · exact ⟨_, read_halved _⟩
      · rw [List.mem_singleton.1 hp]
        exact ⟨_, hread⟩
    obtain ⟨hinvalid, -⟩ := hspec "./a.ttl" (by decide) halved (read_halved _)
    exact ⟨fs, hfs, hname ▸ hinvalid not_isValidUTF8_halved⟩
  · obtain ⟨-, hfails⟩ := find_locates (x := besideNowhere) (s := .default) (isTree_besideHalved trivial)
      files_besideNowhere
    refine hfails ["./a.ttl"] "./b.ttl" [] .notFound rfl (fun q hq => ?_) read_nowhere
    rw [List.mem_singleton.1 hq]
    exact ⟨_, read_halved _⟩

/-- A link to nothing is collected and cannot be read, and so nothing is said about the file that is no text. -/
theorem not_forall_located : ¬∀ (x : Context) (s : Settings) (ps : List String) (p : String) (b : ByteArray),
    x.files.root.IsTree → Dataset.files x.files x.target s.extensions = .ok ps → p ∈ ps → x.files.read p = .ok b →
    ¬b.IsValidUTF8 → ∃ fs, ∃ k : Nat, find x s = .ok fs ∧
      Finding.about (Path.nameBelow x.target p) fs =
        [⟨.error, "not valid UTF-8 (byte offset " ++ toString k ++ ")"⟩] := by
  intro h
  have hread : look besideNowhere .default "./b.ttl" = .error .notFound := by
    rw [look, read_nowhere]
    rfl
  have hbefore : ∀ q ∈ ["./a.ttl"], ∃ gs, look besideNowhere .default q = .ok gs := by
    intro q hq
    rw [List.mem_singleton.1 hq]
    exact ⟨_, look_eq_ok (read_halved _)⟩
  have hfind : find besideNowhere .default = .error (.failed [FileFault.notFound.message]) :=
    (find_eq_gather files_besideNowhere).trans (gather_eq_error hbefore hread [])
  obtain ⟨fs, k, hfs, -⟩ := h besideNowhere .default _ "./a.ttl" halved (isTree_besideHalved trivial)
    files_besideNowhere (by decide) (read_halved _) not_isValidUTF8_halved
  cases hfs.symm.trans hfind

end Encoding

end DatasetLint.Check
