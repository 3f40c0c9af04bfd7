import DatasetLint.Proofs.Files.Path
import DatasetLint.Proofs.Files.Uri
import DatasetLint.Proofs.Problems.Table
import DatasetLint.Report.Diagnostics

/-!
# URIs of resources

A notification tells its resource by a URI. Below an absolute root it tells every resource from the others,
up to which of the two separators stand in its name; and it leads back to the file, unless a backslash or a
drive is on the way there.
-/

namespace DatasetLint

open Files

namespace Files.Uri

private theorem slashed_join {root r : String} (hr : Path.isAbsolute r = false) :
    slashed (Path.join root r) = slashed (Path.joint root) ++ slashed r := by
  rw [Path.join_of_relative hr, ← String.toList_inj]
  simp only [slashed, String.toList_append, String.toList_ofList, List.map_append]

theorem slashed_join_eq_iff {root r q : String} (hr : Path.isAbsolute r = false) (hq : Path.isAbsolute q = false) :
    slashed (Path.join root r) = slashed (Path.join root q) ↔ slashed r = slashed q := by
  rw [slashed_join hr, slashed_join hq, ← String.toList_inj, String.toList_append, String.toList_append,
    List.append_cancel_left_eq, String.toList_inj]

end Files.Uri

namespace Report.Diagnostics

/-- The names that the table `s` has are those of files below `root`. -/
def NamesBelow (root : String) (s : ProblemTable) : Prop :=
  ∀ r ∈ s.resources, ∃ p, Path.parts root <+: Path.parts p ∧ r = Path.nameBelow root p

private theorem NamesBelow.relative {root : String} (hroot : Path.isAbsolute root = true) {s : ProblemTable}
    (h : NamesBelow root s) {r : String} (hr : r ∈ s.resources) : Path.isAbsolute r = false := by
  obtain ⟨p, hp, rfl⟩ := h r hr
  exact Path.isAbsolute_nameBelow hroot hp

theorem uri_eq_iff {root r q : String} (hroot : Path.isAbsolute root = true) (hr : Path.isAbsolute r = false)
    (hq : Path.isAbsolute q = false) : uri root r = uri root q ↔ Uri.slashed r = Uri.slashed q := by
  rw [uri, uri, Uri.ofPath_eq_iff (Path.isAbsolute_join hroot) (Path.isAbsolute_join hroot),
    Uri.slashed_join_eq_iff hr hq]

theorem toPath?_uri_eq_iff {root r : String} (hroot : Path.isAbsolute root = true) (hr : Path.isAbsolute r = false) :
    Uri.toPath? (uri root r) = some (Path.join root r) ↔
      '\\' ∉ root.toList ∧ '\\' ∉ r.toList ∧ Uri.beginsWithDrive (Path.join root r) = false := by
  rw [uri, Uri.toPath?_ofPath_eq_iff (Path.isAbsolute_join hroot), Path.mem_join hr (by decide), not_or,
    and_assoc]

/-- The URIs of notifications are different if and only if the names are so with `slashed` separators. -/
theorem nodup_uris_iff {root : String} (hroot : Path.isAbsolute root = true) {s : ProblemTable} (hs : NamesBelow root s) :
    (s.buckets.map fun b => uri root b.1).Nodup ↔ (s.resources.map Uri.slashed).Nodup := by
  have huris : s.buckets.map (fun b => uri root b.1) = s.resources.map (uri root) := by
    rw [ProblemTable.resources, List.map_map]
    rfl
  have hnodup : s.resources.Nodup := s.increasing_resources.imp Std.ne_of_lt
  rw [huris, List.nodup_map_iff_inj_on hnodup, List.nodup_map_iff_inj_on hnodup]
  exact forall₂_congr fun r hr => forall₂_congr fun q hq =>
    imp_congr_left (uri_eq_iff hroot (hs.relative hroot hr) (hs.relative hroot hq))

/-- Without a backslash `slashed` leaves the names, no two of which are the same. -/
theorem nodup_slashed {s : ProblemTable} (hslash : ∀ r ∈ s.resources, '\\' ∉ r.toList) :
    (s.resources.map Uri.slashed).Nodup := by
  have hnodup : s.resources.Nodup := s.increasing_resources.imp Std.ne_of_lt
  rw [List.nodup_map_iff_inj_on hnodup]
  intro r hr q hq heq
  rwa [Uri.slashed_eq_iff.2 (hslash r hr), Uri.slashed_eq_iff.2 (hslash q hq)] at heq

/-- For files below an absolute `root`, two notifications have the same URI exactly if the names of their resources
are the same under `slashed`; so all URIs are different as long as no two names are the same so, which holds if no
name has a backslash. A URI leads to the file exactly if neither `root` nor the name has a backslash and the path to
the file does not begin with a drive. -/
theorem uris_identify {root : String} (hroot : Path.isAbsolute root = true) {s : ProblemTable}
    (hs : NamesBelow root s) :
    (∀ r ∈ s.resources, ∀ q ∈ s.resources, uri root r = uri root q ↔ Uri.slashed r = Uri.slashed q) ∧
    ((s.buckets.map fun b => uri root b.1).Nodup ↔ (s.resources.map Uri.slashed).Nodup) ∧
    ((∀ r ∈ s.resources, '\\' ∉ r.toList) → (s.buckets.map fun b => uri root b.1).Nodup) ∧
    ∀ r ∈ s.resources, (Uri.toPath? (uri root r) = some (Path.join root r) ↔
      '\\' ∉ root.toList ∧ '\\' ∉ r.toList ∧ Uri.beginsWithDrive (Path.join root r) = false) := by
  have hnodup := nodup_uris_iff hroot hs
  refine ⟨fun r hr q hq => ?_, hnodup, fun hslash => hnodup.2 (nodup_slashed hslash), fun r hr => ?_⟩
  · exact uri_eq_iff hroot (hs.relative hroot hr) (hs.relative hroot hq)
  · exact toPath?_uri_eq_iff hroot (hs.relative hroot hr)

/-- Problems of two files below a directory whose name needs escapes, one of them in a directory that is called like
a drive. -/
def driveLike : ProblemTable := (ProblemTable.empty.push "c:/ä.ttl" ⟨.error, "broken"⟩).push "a#1.ttl" ⟨.warning, "odd"⟩

theorem uris_identify_driveLike : Path.isAbsolute "/my data" = true ∧ NamesBelow "/my data" driveLike ∧
    (driveLike.buckets.map fun b => uri "/my data" b.1).Nodup ∧
    Uri.toPath? (uri "/my data" "c:/ä.ttl") = some "/my data/c:/ä.ttl" := by
  have hroot : Path.isAbsolute "/my data" = true := by decide +kernel
  have hresources : driveLike.resources = ["a#1.ttl", "c:/ä.ttl"] := by decide +kernel
  have hnames : NamesBelow "/my data" driveLike := by
    intro r hr
    rw [hresources] at hr
    refine ⟨Path.join "/my data" r, ?_⟩
    rcases List.mem_pair.1 hr with rfl | rfl
    · decide +kernel
    · decide +kernel
  obtain ⟨-, -, hnodup, hpath⟩ := uris_identify hroot hnames
  refine ⟨hroot, hnames, hnodup (by decide +kernel), ?_⟩
  have hjoin : Path.join "/my data" "c:/ä.ttl" = "/my data/c:/ä.ttl" := by decide +kernel
  rw [← hjoin]
  exact (hpath _ (by decide +kernel)).2 (by decide +kernel)

/-- Problems of a file in a directory, and of one whose name has a backslash instead. -/
def mixedSeparators : ProblemTable :=
  (ProblemTable.empty.push "a/b.ttl" ⟨.warning, "odd"⟩).push "a\\b.ttl" ⟨.error, "broken"⟩

/-- Both files of `mixedSeparators` have one URI, which leads to the first. A directory at the root that is called
like a drive leads nowhere. -/
theorem uris_mixedSeparators : NamesBelow "/data" mixedSeparators ∧
    ¬(mixedSeparators.buckets.map fun b => uri "/data" b.1).Nodup ∧
    Uri.toPath? (uri "/data" "a\\b.ttl") = some "/data/a/b.ttl" ∧
    Path.join "/data" "a\\b.ttl" ≠ "/data/a/b.ttl" ∧
    Path.nameBelow "/" "/c:/a.ttl" = "c:/a.ttl" ∧ Uri.toPath? (uri "/" "c:/a.ttl") = some "c:\\a.ttl" := by
  have hresources : mixedSeparators.resources = ["a/b.ttl", "a\\b.ttl"] := by decide +kernel
  have hsame : uri "/data" "a/b.ttl" = uri "/data" "a\\b.ttl" := by decide +kernel
  refine ⟨fun r hr => ⟨Path.join "/data" r, ?_⟩, ?_, ?_, by decide +kernel, by decide +kernel, ?_⟩
  · rw [hresources] at hr
    rcases List.mem_pair.1 hr with rfl | rfl
    · decide +kernel
    · decide +kernel
  -- both names have the same URI, so it stands twice
  · have huris : (mixedSeparators.buckets.map fun b => uri "/data" b.1) =
        mixedSeparators.resources.map (uri "/data") := rfl
    rw [huris, hresources, List.map_cons, List.map_cons, hsame]
    exact fun h => (List.nodup_cons.1 h).1 (List.mem_cons_self ..)
  · have hslashed : Uri.slashed (Path.join "/data" "a\\b.ttl") = "/data/a/b.ttl" := by decide +kernel
    rw [← hslashed]
    exact Uri.toPath?_ofPath_of_absolute (by decide +kernel) (by decide +kernel)
  · have hnames : Uri.names (Path.join "/" "c:/a.ttl").toList = ["c:".toList, "a.ttl".toList] := by decide +kernel
    have hdrive : Uri.beginsWithDrive (Path.join "/" "c:/a.ttl") = true := by decide +kernel
    rw [uri, Uri.toPath?_ofPath_of_drive hdrive, hnames]
    rfl

end Report.Diagnostics

end DatasetLint
