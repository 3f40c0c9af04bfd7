import DatasetLint.Proofs.Dataset.OneFile
import DatasetLint.Proofs.Run.Shares

/-!
# What one more file does to the problems of others

Both checks look at the collected files one after the other. A file that is added is looked at between the
others, so that what is found in these stays the same as long as the new file can be looked at. The check
of encoding can look at any octets; the check of prefixes can look at texts only, and ends at a file that is none.
-/

namespace DatasetLint

open Files

namespace Check

/-! ## One file after the other -/

/-- What `look` finds in files, up to the first that cannot be looked at. -/
def gather (look : String → Except FileFault (List Finding)) : List String → Except Failure (List Finding)
  | [] => .ok []
  | p :: ps =>
    match look p with
    | .error e => .error (.failed [e.message])
    | .ok fs => (gather look ps).map (fs ++ ·)

section Gather

variable {look look' : String → Except FileFault (List Finding)} {p r : String} {fs : List Finding}

private theorem gather_congr {ps : List String} (h : ∀ p ∈ ps, look' p = look p) :
    gather look' ps = gather look ps := by
  induction ps with
  | nil => rfl
  | cons p ps ih =>
    rw [gather, gather, h p (List.mem_cons_self ..), ih fun q hq => h q (List.mem_cons_of_mem _ hq)]

private theorem map_about_append (gs : List Finding) (a : Except Failure (List Finding)) :
    (a.map (gs ++ ·)).map (Finding.about r) = (a.map (Finding.about r)).map (Finding.about r gs ++ ·) := by
  cases a with
  | error e => rfl
  | ok fs => exact congrArg Except.ok (Finding.about_append ..)

/-- A file `p` that can be looked at makes no difference to what is found about others. -/
theorem gather_between (hp : look p = .ok fs) (hr : Finding.about r fs = []) (before after : List String) :
    (gather look (before ++ p :: after)).map (Finding.about r) =
      (gather look (before ++ after)).map (Finding.about r) := by
  induction before with
  | nil =>
    rw [List.nil_append, List.nil_append, gather, hp, map_about_append, hr]
    cases gather look after <;> rfl
  | cons q before ih =>
    rw [List.cons_append, List.cons_append, gather, gather]
    cases look q with
    | error e => rfl
    | ok gs => rw [map_about_append, map_about_append, ih]

/-- A file `p` that cannot be looked at is the end, unless there is one before it. -/
theorem gather_end {e : FileFault} (hp : look p = .error e) (before after : List String) :
    ∃ e', gather look (before ++ p :: after) = .error (.failed [e'.message]) ∧
      ∀ fs, gather look (before ++ after) = .ok fs → e' = e := by
  induction before with
  | nil =>
    refine ⟨e, ?_, fun _ _ => rfl⟩
    rw [List.nil_append, gather, hp]
  | cons q before ih =>
    rw [List.cons_append, List.cons_append, gather, gather]
    -- if an earlier file cannot be looked at, the end is its own
    cases look q with
    | error e' => exact ⟨e', rfl, nofun⟩
    | ok gs =>
      obtain ⟨e', he', hok⟩ := ih
      refine ⟨e', by rw [he']; rfl, fun fs hfs => ?_⟩
      cases h : gather look (before ++ after) with
      | error e => rw [h] at hfs; cases hfs
      | ok fs => exact hok fs h

end Gather

/-- What `look` finds in the files that are collected in the dataset of `x`. -/
def gatherUnder (x : Context) (wanted : List String) (look : String → Except FileFault (List Finding)) :
    Except Failure (List Finding) :=
  match Dataset.files x.files x.target wanted with
  | .error e => .error (.failed [e.message])
  | .ok ps => gather look ps

/-- The problems `ps` of the file `p`, as findings. -/
def findings (x : Context) (p : String) (ps : List Problem) : List Finding := ps.map (⟨Path.nameBelow x.target p, ·⟩)

theorem about_findings_of_ne {x : Context} {p r : String} (h : r ≠ Path.nameBelow x.target p) (ps : List Problem) :
    Finding.about r (findings x p ps) = [] := by
  rw [findings, Finding.about_bucket r (Path.nameBelow x.target p, ps), if_neg h.symm]

namespace Encoding

def look (x : Context) (s : Settings) (p : String) : Except FileFault (List Finding) :=
  (x.files.read p).map fun b => findings x p (fileProblems s b)

private theorem findIn_eq_gather (x : Context) (s : Settings) (ps : List String) :
    findIn x s ps = gather (look x s) ps := by
  induction ps with
  | nil => rfl
  | cons p ps ih =>
    rw [findIn, gather, look, ih]
    cases x.files.read p <;> rfl

theorem find_eq_gatherUnder (x : Context) (s : Settings) : find x s = gatherUnder x s.extensions (look x s) := by
  rw [find, gatherUnder]
  cases Dataset.files x.files x.target s.extensions with
  | error e => rfl
  | ok ps => exact findIn_eq_gather x s ps

end Encoding

namespace Prefixes

def look (x : Context) (s : Settings) (p : String) : Except FileFault (List Finding) :=
  (x.files.readText p).map fun t => findings x p (textProblems s t.toList)

private theorem findIn_eq_gather (x : Context) (s : Settings) (ps : List String) :
    findIn x s ps = gather (look x s) ps := by
  induction ps with
  | nil => rfl
  | cons p ps ih =>
    rw [findIn, gather, look, ih]
    cases x.files.readText p <;> rfl

private theorem find_eq_gatherUnder (x : Context) (s : Settings) :
    find x s = if s.rules = [] then .ok [] else gatherUnder x ["ttl"] (look x s) := by
  rw [find, gatherUnder]
  cases s.rules with
  | nil => rfl
  | cons r rs =>
    rw [if_neg (List.cons_ne_nil r rs)]
    cases Dataset.files x.files x.target ["ttl"] with
    | error e => rfl
    | ok ps => exact findIn_eq_gather x s ps

end Prefixes

/-- What `c` adds to the problems for what it finds, or because it did not finish. -/
def said (c : Check) : Except Failure (List Finding) → List Finding
  | .ok fs => fs.map fun f => { f with problem.message := c.name ++ ": " ++ f.problem.message }
  | .error e => [⟨runnerResource, .error, complaint c.name (.execution c.name e.message)⟩]

theorem share_eq_said {c : Check} {x : Context} {s : c.Settings} (h : c.settings x.parameters = .ok s) :
    c.share x = c.said (c.find x s) := by
  rw [share, run, h]
  dsimp only
  cases c.find x s <;> rfl

theorem share_eq_of_settings_error {c : Check} {x : Context} {e : Binding.BindFault}
    (h : c.settings x.parameters = .error e) :
    c.share x = [⟨runnerResource, .error, complaint c.name (.binding c.name e)⟩] := by
  rw [share, run, h]

private theorem about_said (c : Check) (r : String) (fs : List Finding) : Finding.about r (c.said (.ok fs)) =
    (Finding.about r fs).map fun p => { p with message := c.name ++ ": " ++ p.message } := by
  rw [said]
  induction fs with
  | nil => rfl
  | cons f fs ih =>
    rw [List.map_cons, Finding.about_cons, Finding.about_cons, ih, List.map_append]
    split <;> rfl

private theorem about_said_congr (c : Check) {r : String} {a b : Except Failure (List Finding)}
    (h : a.map (Finding.about r) = b.map (Finding.about r)) :
    Finding.about r (c.said a) = Finding.about r (c.said b) := by
  cases a with
  | error e =>
    cases b with
    | error e' => cases h; rfl
    | ok gs => cases h
  | ok fs =>
    cases b with
    | error e => cases h
    | ok gs =>
      have habout : Finding.about r fs = Finding.about r gs := Except.ok.inj h
      rw [about_said, about_said, habout]

/-- What the share of `c` says about `r` goes by what `c.find` finds about it. -/
theorem about_share_congr {c : Check} {x x' : Context} {r : String} (hparameters : x'.parameters = x.parameters)
    (h : ∀ s, c.settings x.parameters = .ok s →
      (c.find x' s).map (Finding.about r) = (c.find x s).map (Finding.about r)) :
    Finding.about r (c.share x') = Finding.about r (c.share x) := by
  cases hs : c.settings x.parameters with
  | error e => rw [share_eq_of_settings_error hs, share_eq_of_settings_error (hparameters ▸ hs)]
  | ok s =>
    rw [share_eq_said hs, share_eq_said (hparameters ▸ hs)]
    exact about_said_congr c (h s hs)

end Check

/-! ## A file that is added -/

namespace Context

/-- The context `x` with one more file. -/
def withFile (x : Context) (place : Location) (content : ByteArray) : Context :=
  { x with files := x.files.put place (.file content) }

/-- A new file can be added under `names` below the target, which is the directory `dir`: what is there of the way
are directories, and directories that are missing are made. The file can be opened by its path, and no link that is
collected and leads nowhere leads somewhere because of it. -/
structure TakesFile (x : Context) (dir : Location) (names : List String) (content : ByteArray) : Prop where
  place : ∃ es, x.files.resolve x.target = .ok (.found dir (.directory es)) ∧ (Entry.directory es).CanAdd names
  areNames : ∀ n ∈ names, FileSystem.IsFileName n
  length : (Dataset.pathOf x.target names).utf8ByteSize < FileSystem.pathLimit
  missing : ∀ wanted ps, Dataset.files x.files x.target wanted = .ok ps →
    ∀ p ∈ ps, Dataset.StaysMissing x.files (x.withFile (dir ++ names) content).files p

variable {x : Context} {dir : Location} {names : List String} {content : ByteArray}

private theorem TakesFile.canAdd (h : x.TakesFile dir names content) : x.files.root.CanAdd (dir ++ names) := by
  obtain ⟨es, htarget, hadd⟩ := h.place
  exact (FileSystem.resolve_put_below (.file content) htarget hadd).1

/-- The new file can be read, and has its `content`. -/
theorem TakesFile.read_new (h : x.TakesFile dir names content) :
    (x.withFile (dir ++ names) content).files.read (Dataset.pathOf x.target names) = .ok content := by
  obtain ⟨es, htarget, hadd⟩ := h.place
  have htarget' := (FileSystem.resolve_put_below (.file content) htarget hadd).2
  have hat := hadd.at?_put (.file content)
  obtain ⟨_, n, ns, ⟨⟩, rfl⟩ := hadd.exists_directory
  rw [Dataset.put_directory] at htarget' hat
  have hnew := FileSystem.resolve_pathOf htarget' h.areNames hat nofun h.length
  rw [FileSystem.read, FileSystem.entry, withFile, hnew]

private theorem TakesFile.readText_new (h : x.TakesFile dir names content) :
    (x.withFile (dir ++ names) content).files.readText (Dataset.pathOf x.target names) =
      match Text.Utf8.decode content with
      | some t => .ok t
      | none => .error .notText := by
  cases hdecode : Text.Utf8.decode content <;> simp [FileSystem.readText, h.read_new, hdecode]

end Context

namespace Check

section Added

variable {x : Context} {dir : Location} {names : List String} {content : ByteArray}
  (h : x.TakesFile dir names content)

section Collected

variable {wanted : List String} {look look' : String → Except FileFault (List Finding)}
  (hlook : ∀ p, Dataset.StaysMissing x.files (x.withFile (dir ++ names) content).files p → look' p = look p)

include h hlook

variable (wanted) in
/-- `gatherUnder` with the new file and without it goes through the same files but for the new one. Or both fail,
because of a directory that cannot be looked into. -/
theorem gatherUnder_withFile :
    (gatherUnder x wanted look = .error (.failed [FileFault.nameTooLong.message]) ∧
      gatherUnder (x.withFile (dir ++ names) content) wanted look' =
        .error (.failed [FileFault.nameTooLong.message])) ∨
    ∃ before after,
      gatherUnder x wanted look = gather look' (before ++ after) ∧
      gatherUnder (x.withFile (dir ++ names) content) wanted look' =
        gather look' (before ++ (Dataset.collected wanted names).map (Dataset.pathOf x.target) ++ after) := by
  obtain ⟨es, htarget, hadd⟩ := h.place
  rcases Dataset.files_put wanted htarget hadd h.areNames h.length (h.missing wanted) with
    ⟨hfiles, hfiles'⟩ | ⟨before, after, hfiles, hfiles'⟩
  · refine .inl ⟨?_, ?_⟩
    · rw [gatherUnder, hfiles]
    · rw [gatherUnder, Context.withFile, hfiles']
  · refine .inr ⟨before, after, ?_, ?_⟩
    · rw [gatherUnder, hfiles]
      exact (gather_congr fun p hp => hlook p (h.missing wanted _ hfiles p hp)).symm
    · rw [gatherUnder, Context.withFile, hfiles']

/-- If `look'` can look at the new file, what is found about `r` stays. -/
theorem gatherUnder_about_eq {r : String}
    (hnew : Dataset.isCollected wanted names = true →
      ∃ fs, look' (Dataset.pathOf x.target names) = .ok fs ∧ Finding.about r fs = []) :
    (gatherUnder (x.withFile (dir ++ names) content) wanted look').map (Finding.about r) =
      (gatherUnder x wanted look).map (Finding.about r) := by
  rcases gatherUnder_withFile h wanted hlook with ⟨hfails, hfails'⟩ | ⟨before, after, hgather, hgather'⟩
  · rw [hfails, hfails']
  · rw [hgather, hgather', Dataset.collected]
    cases hcollected : Dataset.isCollected wanted names with
    | false => rw [if_neg Bool.false_ne_true, List.map_nil, List.append_nil]
    | true =>
      obtain ⟨fs, hfs, habout⟩ := hnew hcollected
      rw [if_pos rfl, List.map_singleton, List.append_assoc, List.singleton_append]
      exact gather_between hfs habout before after

/-- If the new file is collected and `look'` cannot look at it, nothing is found. -/
theorem gatherUnder_end {e : FileFault} (hcollected : Dataset.isCollected wanted names = true)
    (hnew : look' (Dataset.pathOf x.target names) = .error e) : ∃ e',
    gatherUnder (x.withFile (dir ++ names) content) wanted look' = .error (.failed [e'.message]) ∧
      ∀ fs, gatherUnder x wanted look = .ok fs → e' = e := by
  rcases gatherUnder_withFile h wanted hlook with ⟨hfails, hfails'⟩ | ⟨before, after, hgather, hgather'⟩
  · refine ⟨.nameTooLong, hfails', fun fs hfs => ?_⟩
    rw [hfails] at hfs
    cases hfs
  · rw [hgather, hgather', Dataset.collected, hcollected, if_pos rfl, List.map_singleton, List.append_assoc,
      List.singleton_append]
    exact gather_end hnew before after

end Collected

/-! ## The two checks -/

include h

private theorem Encoding.look_withFile (s : Settings) {p : String}
    (hp : Dataset.StaysMissing x.files (x.withFile (dir ++ names) content).files p) :
    look (x.withFile (dir ++ names) content) s p = look x s p := by
  have hread : (x.withFile (dir ++ names) content).files.read p = x.files.read p :=
    FileSystem.read_added h.canAdd (.file content) hp
  rw [look, look, hread]
  rfl

private theorem Prefixes.look_withFile (s : Settings) {p : String}
    (hp : Dataset.StaysMissing x.files (x.withFile (dir ++ names) content).files p) :
    look (x.withFile (dir ++ names) content) s p = look x s p := by
  have hread : (x.withFile (dir ++ names) content).files.readText p = x.files.readText p :=
    FileSystem.readText_added h.canAdd (.file content) hp
  rw [look, look, hread]
  rfl

/-- The share of `encoding` says the same about `r`, which is not the new file, whatever is in that. -/
theorem about_share_encoding {r : String} (hr : r ≠ Path.nameBelow x.target (Dataset.pathOf x.target names)) :
    Finding.about r (encoding.share (x.withFile (dir ++ names) content)) = Finding.about r (encoding.share x) := by
  -- the check reads octets, so whatever the new file holds can be looked at
  refine about_share_congr rfl fun (s : Encoding.Settings) _ => ?_
  change (Encoding.find _ s).map _ = (Encoding.find _ s).map _
  rw [Encoding.find_eq_gatherUnder, Encoding.find_eq_gatherUnder]
  refine gatherUnder_about_eq h (fun p hp => Encoding.look_withFile h s hp) fun _ => ?_
  refine ⟨_, ?_, about_findings_of_ne hr (Encoding.fileProblems s content)⟩
  rw [Encoding.look, h.read_new]
  rfl

omit h in
/-- The check `prefixes` gets to see a file that is no text: it has rules, the file is collected, and its `content`
cannot be decoded. -/
def MeetsNoText (x : Context) (names : List String) (content : ByteArray) : Prop :=
  ∃ s : Prefixes.Settings, prefixes.settings x.parameters = .ok s ∧ s.rules ≠ [] ∧
    Dataset.isCollected ["ttl"] names = true ∧ Text.Utf8.decode content = none

/-- The share of `prefixes` says the same about `r`, unless `MeetsNoText`. -/
theorem about_share_prefixes {r : String} (hr : r ≠ Path.nameBelow x.target (Dataset.pathOf x.target names))
    (hmeets : ¬MeetsNoText x names content) :
    Finding.about r (prefixes.share (x.withFile (dir ++ names) content)) = Finding.about r (prefixes.share x) := by
  refine about_share_congr rfl fun (s : Prefixes.Settings) hs => ?_
  change (Prefixes.find _ s).map _ = (Prefixes.find _ s).map _
  rw [Prefixes.find_eq_gatherUnder, Prefixes.find_eq_gatherUnder]
  split
  · rfl
  · rename_i hrules
    -- the new file matters only if it is collected, and then it is a text
    refine gatherUnder_about_eq h (fun p hp => Prefixes.look_withFile h s hp) fun hcollected => ?_
    cases hdecode : Text.Utf8.decode content with
    | none => exact (hmeets ⟨s, hs, hrules, hcollected, hdecode⟩).elim
    | some t =>
      refine ⟨_, ?_, about_findings_of_ne hr (Prefixes.textProblems s t.toList)⟩
      rw [Prefixes.look, h.readText_new, hdecode]
      rfl

omit h in
private theorem run_prefixes {s : Prefixes.Settings} (hs : prefixes.settings x.parameters = .ok s) :
    prefixes.run x = (Prefixes.find x s).mapError fun e => .execution "prefix" e.message := by
  rw [run, hs]
  rfl

/-- If `MeetsNoText`, that is all that `prefixes` has to say. -/
theorem run_prefixes_of_meetsNoText (hmeets : MeetsNoText x names content) : ∃ e : FileFault,
    prefixes.run (x.withFile (dir ++ names) content) = .error (.execution "prefix" e.message) ∧
      ∀ fs, prefixes.run x = .ok fs → e = .notText := by
  obtain ⟨s, hs, hrules, hcollected, hdecode⟩ := hmeets
  have hnew : Prefixes.look (x.withFile (dir ++ names) content) s (Dataset.pathOf x.target names) =
      .error .notText := by
    rw [Prefixes.look, h.readText_new, hdecode]
    rfl
  obtain ⟨e, he, hok⟩ := gatherUnder_end h (fun p hp => Prefixes.look_withFile h s hp) hcollected hnew
  refine ⟨e, ?_, fun fs hfs => ?_⟩
  · have hs' : prefixes.settings (x.withFile (dir ++ names) content).parameters = .ok s := hs
    rw [run_prefixes hs', Prefixes.find_eq_gatherUnder, if_neg hrules, he]
    rfl
  · rw [run_prefixes hs, Prefixes.find_eq_gatherUnder, if_neg hrules] at hfs
    cases hgather : gatherUnder x ["ttl"] (Prefixes.look x s) with
    | error e => rw [hgather] at hfs; cases hfs
    | ok gs => exact hok gs hgather

private theorem share_prefixes_of_meetsNoText (hmeets : MeetsNoText x names content) : ∃ e : FileFault,
    prefixes.share (x.withFile (dir ++ names) content) =
        [⟨runnerResource, .error, "prefix: execution failed: " ++ e.message⟩] ∧
      ∀ fs, prefixes.run x = .ok fs → e = .notText := by
  obtain ⟨e, he, hok⟩ := run_prefixes_of_meetsNoText h hmeets
  refine ⟨e, ?_, hok⟩
  rw [share, he]
  rfl

omit h in
/-- What a run of both checks has of `r`: what `encoding` shares and then what `prefixes` does. -/
theorem get_runAll_builtin (x : Context) (s : ProblemTable) (r : String) :
    (runAll Linter.builtin.checks x s).get r =
      s.get r ++ (Finding.about r (encoding.share x) ++ Finding.about r (prefixes.share x)) := by
  rw [get_runAll, Linter.builtin, List.flatMap_cons, List.flatMap_singleton, Finding.about_append]

/-- Unless `MeetsNoText`, both checks say the same about every other resource. -/
theorem get_runAll_withFile_of_not_meetsNoText (hmeets : ¬MeetsNoText x names content) (s : ProblemTable) {r : String}
    (hr : r ≠ Path.nameBelow x.target (Dataset.pathOf x.target names)) :
    (runAll Linter.builtin.checks (x.withFile (dir ++ names) content) s).get r =
      (runAll Linter.builtin.checks x s).get r := by
  rw [get_runAll_builtin, get_runAll_builtin, about_share_encoding h hr, about_share_prefixes h hr hmeets]

/-- If `MeetsNoText`, only `encoding` says something about the other resources. -/
theorem get_runAll_withFile_of_meetsNoText (hmeets : MeetsNoText x names content) (s : ProblemTable) {r : String}
    (hr : r ≠ Path.nameBelow x.target (Dataset.pathOf x.target names)) (hrunner : r ≠ runnerResource) :
    (runAll Linter.builtin.checks (x.withFile (dir ++ names) content) s).get r =
      s.get r ++ Finding.about r (encoding.share x) := by
  obtain ⟨e, hshare, -⟩ := share_prefixes_of_meetsNoText h hmeets
  have habout : Finding.about r (prefixes.share (x.withFile (dir ++ names) content)) = [] := by
    rw [hshare, Finding.about_cons, if_neg hrunner.symm, Finding.about_nil, List.append_nil]
  rw [get_runAll_builtin, about_share_encoding h hr, habout, List.append_nil]

/-- With one more file under `dir ++ names`, whatever its `content`, `encoding` says about every other resource `r`
what it said without it. So do both checks together, unless `MeetsNoText`: then `prefixes` shares nothing but one
error about the run, and whatever it found in other files is gone. -/
theorem get_builtin_withFile (s : ProblemTable) :
    (∀ r, r ≠ Path.nameBelow x.target (Dataset.pathOf x.target names) →
      Finding.about r (encoding.share (x.withFile (dir ++ names) content)) = Finding.about r (encoding.share x)) ∧
    (¬MeetsNoText x names content → ∀ r, r ≠ Path.nameBelow x.target (Dataset.pathOf x.target names) →
      (runAll Linter.builtin.checks (x.withFile (dir ++ names) content) s).get r =
        (runAll Linter.builtin.checks x s).get r) ∧
    (MeetsNoText x names content → ∃ e : FileFault,
      prefixes.share (x.withFile (dir ++ names) content) =
        [⟨runnerResource, .error, "prefix: execution failed: " ++ e.message⟩] ∧
      (∀ fs, prefixes.run x = .ok fs → e = .notText) ∧
      ∀ r, r ≠ Path.nameBelow x.target (Dataset.pathOf x.target names) → r ≠ runnerResource →
        (runAll Linter.builtin.checks (x.withFile (dir ++ names) content) s).get r =
          s.get r ++ Finding.about r (encoding.share x)) := by
  refine ⟨fun r => about_share_encoding h, fun hmeets r => get_runAll_withFile_of_not_meetsNoText h hmeets s,
    fun hmeets => ?_⟩
  obtain ⟨e, hshare, hok⟩ := share_prefixes_of_meetsNoText h hmeets
  exact ⟨e, hshare, hok, fun r => get_runAll_withFile_of_meetsNoText h hmeets s⟩

end Added

/-! ### A file that is no text, next to one that breaks a rule -/

/-- The rule that `ex` stands for one namespace. -/
def exRule : Prefixes.Settings := ⟨.warning, [⟨"ex", "http://x/", some .warning⟩]⟩

/-- A dataset of one text, in which `ex` stands for another namespace. -/
def oneText : Context where
  parameters := { Config.Parameters.default with
    validation := .mapping [("prefix", .mapping [("prefixes", .sequence [
      .mapping [("name", .scalar "ex"), ("url", .scalar "http://x/")]])])] }
  target := "."
  files := ⟨.directory [("a.ttl", .file "@prefix ex: <http://e/> .\n".toUTF8)], []⟩

/-- An octet that begins no character. -/
def noText : ByteArray := ⟨#[0xff]⟩

private theorem settings_oneText : prefixes.settings oneText.parameters = .ok exRule := rfl

private theorem resolve_oneText :
    oneText.files.resolve "." = .ok (.found [] oneText.files.root) := Dataset.resolve_oneFile

private theorem entry_oneText : oneText.files.entry "./a.ttl" = .ok (.file "@prefix ex: <http://e/> .\n".toUTF8) := by
  have hname : FileSystem.IsFileName "a.ttl" := by decide
  have hjoin : Path.join "." "a.ttl" = "./a.ttl" := by decide
  rw [← hjoin]
  exact Dataset.entry_oneFile hname (by decide)

private theorem files_oneText (wanted : List String) : Dataset.files oneText.files "." wanted =
    .ok (if Dataset.isWanted wanted "a.ttl" then ["./a.ttl"] else []) := by
  have hjoin : Path.join "." "a.ttl" = "./a.ttl" := by decide
  rw [← hjoin]
  exact Dataset.files_oneFile wanted

private theorem oneText_takesFile : oneText.TakesFile [] ["b.ttl"] noText where
  place := by
    refine ⟨_, resolve_oneText, fun e he => ?_⟩
    have hnone : List.lookup "b.ttl" [("a.ttl", Entry.file "@prefix ex: <http://e/> .\n".toUTF8)] = none := rfl
    cases hnone.symm.trans he
  areNames := by
    intro n hn
    cases List.mem_singleton.1 hn
    decide
  length := by decide
  missing := by
    intro wanted ps hps p hp hmissing
    cases (files_oneText wanted).symm.trans hps
    split at hp
    · cases List.mem_singleton.1 hp
      cases entry_oneText.symm.trans hmissing
    · cases hp

private theorem meetsNoText_oneText : MeetsNoText oneText ["b.ttl"] noText :=
  ⟨exRule, settings_oneText, List.cons_ne_nil _ _, by decide, by decide⟩

private theorem run_prefixes_oneText : prefixes.run oneText =
    .ok [⟨"a.ttl", .warning, "line 1: prefix ex: should be <http://x/>, found <http://e/>"⟩] := by
  have hfiles : Dataset.files oneText.files oneText.target ["ttl"] = .ok ["./a.ttl"] :=
    (files_oneText ["ttl"]).trans (congrArg _ (if_pos (by decide)))
  have hread : oneText.files.readText "./a.ttl" = .ok "@prefix ex: <http://e/> .\n" := by
    rw [FileSystem.readText, FileSystem.read, entry_oneText]
    dsimp only
    rw [Text.Utf8.decode_toUTF8]
  have hproblems : Prefixes.textProblems exRule "@prefix ex: <http://e/> .\n".toList =
      [⟨.warning, "line 1: prefix ex: should be <http://x/>, found <http://e/>"⟩] := by decide
  have hname : Path.nameBelow oneText.target "./a.ttl" = "a.ttl" := by decide
  rw [run_prefixes settings_oneText, Prefixes.find, if_neg (by decide), hfiles]
  dsimp only
  rw [Prefixes.findIn, hread]
  dsimp only
  rw [hproblems, Prefixes.findIn, List.map_singleton, hname]
  rfl

/-- What the rule says about `a.ttl` is lost when the check meets `b.ttl`. -/
theorem share_prefixes_oneText :
    Finding.about "a.ttl" (prefixes.share oneText) =
      [⟨.warning, "prefix: line 1: prefix ex: should be <http://x/>, found <http://e/>"⟩] ∧
    prefixes.share (oneText.withFile ["b.ttl"] noText) =
      [⟨runnerResource, .error, "prefix: execution failed: stream did not contain valid UTF-8"⟩] := by
  obtain ⟨e, hshare, hok⟩ := share_prefixes_of_meetsNoText oneText_takesFile meetsNoText_oneText
  cases hok _ run_prefixes_oneText
  refine ⟨?_, hshare⟩
  rw [share, run_prefixes_oneText]
  decide

theorem get_builtin_withFile_notText : ∃ e : FileFault,
    prefixes.share (oneText.withFile ["b.ttl"] noText) =
        [⟨runnerResource, .error, "prefix: execution failed: " ++ e.message⟩] ∧
      e = .notText ∧ (runAll Linter.builtin.checks (oneText.withFile ["b.ttl"] noText) .empty).get "a.ttl" =
        Finding.about "a.ttl" (encoding.share oneText) := by
  obtain ⟨-, -, hlost⟩ := get_builtin_withFile oneText_takesFile .empty
  obtain ⟨e, hshare, hok, hget⟩ := hlost meetsNoText_oneText
  refine ⟨e, hshare, hok _ run_prefixes_oneText, ?_⟩
  have hother := hget "a.ttl" (by decide) (by decide)
  rwa [ProblemTable.get_empty, List.nil_append] at hother

/-- Not even the problems of files that were there before stay the same. -/
theorem get_builtin_withFile_ne : oneText.TakesFile [] ["b.ttl"] noText ∧
    "a.ttl" ≠ Path.nameBelow oneText.target (Dataset.pathOf oneText.target ["b.ttl"]) ∧
    (runAll Linter.builtin.checks (oneText.withFile ["b.ttl"] noText) .empty).get "a.ttl" ≠
      (runAll Linter.builtin.checks oneText .empty).get "a.ttl" := by
  have hother : "a.ttl" ≠ Path.nameBelow oneText.target (Dataset.pathOf oneText.target ["b.ttl"]) := by decide
  obtain ⟨hbefore, hafter⟩ := share_prefixes_oneText
  have hnothing : Finding.about "a.ttl" (prefixes.share (oneText.withFile ["b.ttl"] noText)) = [] := by
    rw [hafter]
    decide
  have hsame : Finding.about "a.ttl" (encoding.share (oneText.withFile ["b.ttl"] noText)) =
      Finding.about "a.ttl" (encoding.share oneText) := about_share_encoding oneText_takesFile hother
  refine ⟨oneText_takesFile, hother, fun heq => ?_⟩
  rw [get_runAll_builtin, get_runAll_builtin, hnothing, hbefore, hsame] at heq
  -- without what the check of encoding says, nothing would have to be the warning
  have hlost := List.append_cancel_left (List.append_cancel_left heq)
  cases hlost

end Check

end DatasetLint
