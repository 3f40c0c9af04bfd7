import DatasetLint.Config.Discovery
import DatasetLint.Proofs.Files.Written

/-!
# Which value a parameter takes

The command line comes before the configuration file, and that before a default. Only the file of known
problems is different: one that is found under the parent directory comes before the one that the
configuration names.
-/

namespace DatasetLint.Config

open Files

/-- `firstFile?` finds the file in the first of the `places` that have one. -/
theorem firstFile?_eq_some_iff {s : FileSystem} {parent name path : String} :
    firstFile? s parent name = some path ↔ s.isFile path = true ∧
      ∃ before after, (places name).map (Path.join parent) = before ++ path :: after ∧
        ∀ q ∈ before, s.isFile q = false := by
  rw [firstFile?, List.find?_eq_some_iff_append]
  simp only [Bool.not_eq_true']

theorem firstFile?_eq_none_iff {s : FileSystem} {parent name : String} :
    firstFile? s parent name = none ↔ ∀ place ∈ places name, s.isFile (Path.join parent place) = false := by
  simp [firstFile?, List.find?_eq_none]

theorem suppressionFile?_eq_some_iff {s : FileSystem} {parent path : String} :
    suppressionFile? s parent = some path ↔ s.isFile path = true ∧
      ∃ before after, (places "rdflint-suppress.yml").map (Path.join parent) = before ++ path :: after ∧
        ∀ q ∈ before, s.isFile q = false :=
  firstFile?_eq_some_iff

theorem suppressionFile?_eq_none_iff {s : FileSystem} {parent : String} :
    suppressionFile? s parent = none ↔
      ∀ place ∈ places "rdflint-suppress.yml", s.isFile (Path.join parent place) = false :=
  firstFile?_eq_none_iff

namespace Parameters

section Complete

variable (s : FileSystem) (o : Overrides) (parent : String) (p : Parameters)

private theorem targetDir_complete :
    (p.complete s o parent).targetDir = some (o.targetDir.getD (p.targetDir.getD ".")) := by
  rw [complete]
  cases o.targetDir with
  | some d => rfl
  | none =>
    cases p.targetDir with
    | some d => rfl
    | none => rfl

/-- Without any `outputDir` the report goes to the `target`. -/
theorem outputDir_complete :
    (p.complete s o parent).outputDir =
      some (o.outputDir.getD (p.outputDir.getD (p.complete s o parent).target)) := by
  rw [target, targetDir_complete, Option.getD_some, complete]
  cases o.outputDir with
  | some d => rfl
  | none =>
    cases p.outputDir with
    | some d => rfl
    | none =>
      cases o.targetDir with
      | some d => rfl
      | none =>
        cases p.targetDir with
        | some d => rfl
        | none => rfl

/-- `suppressionFile?` stands between the command line and the configuration. -/
theorem suppressPath_complete :
    (p.complete s o parent).suppressPath = (o.suppressPath.or (suppressionFile? s parent)).or p.suppressPath :=
  rfl

/-- The configuration is heard before `suppressionFile?` exactly where it cannot make a difference. -/
theorem suppressPath_complete_eq_iff :
    (p.complete s o parent).suppressPath =
        (o.suppressPath.or p.suppressPath).or (suppressionFile? s parent) ↔
      o.suppressPath.isSome = true ∨ p.suppressPath = none ∨ suppressionFile? s parent = none ∨
        suppressionFile? s parent = p.suppressPath := by
  rw [suppressPath_complete]
  cases o.suppressPath with
  | some path => simp
  | none =>
    cases suppressionFile? s parent with
    | none => simp
    | some found =>
      cases p.suppressPath with
      | none => simp
      | some path => simp

end Complete

/-- `targetDir`, `outputDir`, `baseUri` and `originDir` are those of the command line `o`, else of the configuration
`p`, else their defaults, and `rules` and `validation` stay. `suppressPath` is that of `o`, else the
`suppressionFile?` under `parent`, else that of `p`; so `p` keeps its say exactly if it names none, or none but the
same is found, or `o` decides. What is found is the first of the `places` that has a file. -/
theorem complete_precedence (s : FileSystem) (o : Overrides) (parent : String) (p : Parameters) :
    (p.complete s o parent).targetDir = some (o.targetDir.getD (p.targetDir.getD ".")) ∧
    (p.complete s o parent).outputDir =
      some (o.outputDir.getD (p.outputDir.getD (p.complete s o parent).target)) ∧
    (p.complete s o parent).baseUri = o.baseUri.or p.baseUri ∧
    (p.complete s o parent).originDir = o.originDir.or p.originDir ∧
    (p.complete s o parent).suppressPath =
      (o.suppressPath.or (suppressionFile? s parent)).or p.suppressPath ∧
    ((p.complete s o parent).suppressPath =
        (o.suppressPath.or p.suppressPath).or (suppressionFile? s parent) ↔
      o.suppressPath.isSome = true ∨ p.suppressPath = none ∨ suppressionFile? s parent = none ∨
        suppressionFile? s parent = p.suppressPath) ∧
    (∀ path, suppressionFile? s parent = some path ↔ s.isFile path = true ∧
      ∃ before after, (places "rdflint-suppress.yml").map (Path.join parent) = before ++ path :: after ∧
        ∀ q ∈ before, s.isFile q = false) ∧
    (suppressionFile? s parent = none ↔
      ∀ place ∈ places "rdflint-suppress.yml", s.isFile (Path.join parent place) = false) ∧
    (p.complete s o parent).rules = p.rules ∧ (p.complete s o parent).validation = p.validation :=
  ⟨targetDir_complete s o parent p, outputDir_complete s o parent p, rfl, rfl, suppressPath_complete s o parent p,
    suppressPath_complete_eq_iff s o parent p, fun _ => suppressionFile?_eq_some_iff,
    suppressionFile?_eq_none_iff, rfl, rfl⟩

/-- A directory with a file of known problems that no configuration names. -/
def unnamedFile : FileSystem := ⟨.directory [("rdflint-suppress.yml", .file ⟨#[]⟩)], []⟩

private theorem isFile_unnamedFile : unnamedFile.isFile "./rdflint-suppress.yml" = true := by
  have hsteps : Path.steps "./rdflint-suppress.yml" = [.here, .name "rdflint-suppress.yml"] := by decide
  have hleads : unnamedFile.Leads FileSystem.linkLimit [] [.here, .name "rdflint-suppress.yml"]
      (.found ["rdflint-suppress.yml"] (.file ⟨#[]⟩)) :=
    .here rfl (.down rfl (by decide) rfl (fun _ h => nomatch h) (.found rfl))
  have hresolve : unnamedFile.resolve "./rdflint-suppress.yml" =
      .ok (.found ["rdflint-suppress.yml"] (.file ⟨#[]⟩)) := by
    rw [FileSystem.resolve, if_neg (by decide), if_neg (by decide), if_neg (by decide), hsteps]
    exact hleads.walk_eq
  rw [FileSystem.isFile, FileSystem.entry, hresolve]

/-- What the configuration names is replaced although the command line gives nothing. -/
theorem suppressPath_complete_unnamedFile :
    (({ default with suppressPath := some "known.yml" } : Parameters).complete unnamedFile
        ⟨none, none, none, none, none⟩ ".").suppressPath = some "./rdflint-suppress.yml" := by
  have hjoin : Path.join "." "rdflint-suppress.yml" = "./rdflint-suppress.yml" := by decide
  have hfound : suppressionFile? unnamedFile "." = some "./rdflint-suppress.yml" := by
    rw [suppressionFile?, firstFile?, places, List.map_cons, List.find?_cons, hjoin, isFile_unnamedFile]
  rw [suppressPath_complete, hfound]
  rfl

end Parameters

end DatasetLint.Config
