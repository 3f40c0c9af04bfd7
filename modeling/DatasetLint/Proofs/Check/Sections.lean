import DatasetLint.Proofs.Check.Independence
import DatasetLint.Proofs.Problems.History

/-!
# What the section of one check does to the problems of others

A check says everything under its name. Where the names of checks cannot be mistaken for each other, the
problems under a name are the share of that check, and this goes by its own section and the dataset alone. So
whatever else the parameters say, other sections that fit no settings included, leaves them as they are.
-/

namespace DatasetLint

namespace Check

/-- What the problems of `c` begin with. -/
def label (c : Check) : String := c.name ++ ": "

/-- The message of `p` begins with the `label` of `c`. -/
def isOwn (c : Check) (p : Problem) : Bool := Text.startsWith c.label p.message

/-- The labels of `c` and `d` cannot be mistaken for each other at the front of a problem. -/
def Apart (c d : Check) : Prop := ¬c.label.toList <+: d.label.toList ∧ ¬d.label.toList <+: c.label.toList

/-- `c` looks at its settings and the dataset, and at nothing else that the parameters say. -/
def GoesBySettings (c : Check) : Prop :=
  ∀ (x : Context) (p : Config.Parameters) (s : c.Settings), c.find { x with parameters := p } s = c.find x s

section

variable {c d : Check} {x : Context} {r : String}

theorem isOwn_iff {p : Problem} : c.isOwn p = true ↔ c.label.toList <+: p.message.toList := by
  rw [isOwn, Text.startsWith, List.isPrefixOf_iff_prefix]

private theorem isOwn_label_append {severity : Severity} (m : String) : c.isOwn ⟨severity, c.label ++ m⟩ = true := by
  rw [isOwn_iff, String.toList_append]
  exact List.prefix_append ..

/-- A `complaint` begins with the name of the check. -/
theorem exists_complaint (name : String) (e : RunError) : ∃ m, complaint name e = name ++ ": " ++ m := by
  have hbinding : ": invalid configuration: " = ": " ++ "invalid configuration: " := by decide
  have hexecution : ": execution failed: " = ": " ++ "execution failed: " := by decide
  cases e with
  | binding v e =>
    rw [complaint, hbinding, ← String.append_assoc, String.append_assoc]
    exact ⟨_, rfl⟩
  | execution v m =>
    rw [complaint, hexecution, ← String.append_assoc, String.append_assoc]
    exact ⟨_, rfl⟩
  | configNotFound path => exact ⟨_, rfl⟩
  | config path m => exact ⟨_, rfl⟩
  | suppressions path m => exact ⟨_, rfl⟩
  | files m => exact ⟨_, rfl⟩
  | other m => exact ⟨_, rfl⟩

/-- All that `c` says `isOwn`, also that it failed. -/
theorem isOwn_of_mem_share {f : Finding} (hf : f ∈ c.share x) : c.isOwn f.problem = true := by
  rw [share] at hf
  split at hf
  · obtain ⟨g, -, rfl⟩ := List.mem_map.1 hf
    exact isOwn_label_append g.problem.message
  · rename_i e he
    rw [List.mem_singleton] at hf
    obtain ⟨m, hm⟩ := exists_complaint c.name e
    rw [hf, hm]
    exact isOwn_label_append m

/-- What `d` says does not begin with the label of `c`. -/
theorem Apart.isOwn_eq_false (h : c.Apart d) {p : Problem} (hp : d.isOwn p = true) : c.isOwn p = false := by
  rw [Bool.eq_false_iff]
  intro hown
  -- of two texts that one text begins with, one begins with the other
  rcases List.prefix_or_prefix_of_prefix (isOwn_iff.1 hown) (isOwn_iff.1 hp) with hcd | hdc
  · exact h.1 hcd
  · exact h.2 hdc

private theorem Apart.symm (h : c.Apart d) : d.Apart c := And.symm h

private theorem mem_about {p : Problem} {fs : List Finding} (hp : p ∈ Finding.about r fs) :
    ∃ f ∈ fs, f.problem = p := by
  obtain ⟨f, hf, rfl⟩ := List.mem_map.1 hp
  exact ⟨f, (List.mem_filter.1 hf).1, rfl⟩

private theorem filter_about_share_self (c : Check) (x : Context) (r : String) :
    (Finding.about r (c.share x)).filter c.isOwn = Finding.about r (c.share x) := by
  refine List.filter_eq_self.2 fun p hp => ?_
  obtain ⟨f, hf, rfl⟩ := mem_about hp
  exact isOwn_of_mem_share hf

private theorem filter_about_shares_of_apart {ds : List Check} (h : ∀ d ∈ ds, c.Apart d) (x : Context) (r : String) :
    (Finding.about r (ds.flatMap (·.share x))).filter c.isOwn = [] := by
  refine List.filter_eq_nil_iff.2 fun p hp => ?_
  obtain ⟨f, hf, rfl⟩ := mem_about hp
  obtain ⟨d, hd, hf⟩ := List.mem_flatMap.1 hf
  exact Bool.not_eq_true _ ▸ (h d hd).isOwn_eq_false (isOwn_of_mem_share hf)

/-- The problems of a run that are `c`'s own are its share. -/
theorem filter_runAll (before after : List Check) (h : ∀ d ∈ before ++ after, c.Apart d) (x : Context) :
    (runAll (before ++ c :: after) x .empty).filter (fun _ => c.isOwn) = ProblemTable.empty.record (c.share x) := by
  have hbefore : ∀ d ∈ before, c.Apart d := fun d hd => h d (List.mem_append_left _ hd)
  have hafter : ∀ d ∈ after, c.Apart d := fun d hd => h d (List.mem_append_right _ hd)
  refine ((ProblemTable.noneEmpty_filter _ _).eq_iff (ProblemTable.noneEmpty_empty.record _)).2 fun r => ?_
  rw [ProblemTable.get_filter, runAll_eq_record, ProblemTable.get_record, ProblemTable.get_record, List.flatMap_append,
    List.flatMap_cons, Finding.about_append, Finding.about_append, ProblemTable.get_empty, List.nil_append,
    List.nil_append, List.filter_append, List.filter_append, filter_about_shares_of_apart hbefore,
    filter_about_shares_of_apart hafter, filter_about_share_self, List.nil_append, List.append_nil]

/-- The share of `c` goes by the section that has its name. -/
theorem GoesBySettings.share_eq (h : c.GoesBySettings) {p : Config.Parameters}
    (hsection : p.section? c.name = x.parameters.section? c.name) :
    c.share { x with parameters := p } = c.share x := by
  have hsettings : c.settings p = c.settings x.parameters := by rw [settings, settings, hsection]
  cases hs : c.settings x.parameters with
  | error e => rw [share_eq_of_settings_error hs, share_eq_of_settings_error (hsettings.trans hs)]
  | ok s => rw [share_eq_said hs, share_eq_said (hsettings.trans hs), h x p s]

end

/-! ## The two checks -/

private theorem Encoding.findIn_withParameters (x : Context) (p : Config.Parameters) (s : Settings) (ps : List String) :
    findIn { x with parameters := p } s ps = findIn x s ps := by
  induction ps with
  | nil => rfl
  | cons q ps ih => rw [findIn, findIn, ih]

private theorem Prefixes.findIn_withParameters (x : Context) (p : Config.Parameters) (s : Settings) (ps : List String) :
    findIn { x with parameters := p } s ps = findIn x s ps := by
  induction ps with
  | nil => rfl
  | cons q ps ih => rw [findIn, findIn, ih]

private theorem Encoding.find_withParameters (x : Context) (p : Config.Parameters) (s : Settings) :
    find { x with parameters := p } s = find x s := by
  rw [find, find]
  simp only [findIn_withParameters]

private theorem Prefixes.find_withParameters (x : Context) (p : Config.Parameters) (s : Settings) :
    find { x with parameters := p } s = find x s := by
  rw [find, find]
  simp only [findIn_withParameters]

private theorem goesBySettings_builtin : ∀ c ∈ Linter.builtin.checks, c.GoesBySettings := by
  intro c hc
  rcases List.mem_pair.1 hc with rfl | rfl
  · exact Encoding.find_withParameters
  · exact Prefixes.find_withParameters

private theorem apart_builtin : encoding.Apart prefixes := by
  have hends : ("fileEncoding: ".toList.isPrefixOf "prefix: ".toList) = false ∧
      ("prefix: ".toList.isPrefixOf "fileEncoding: ".toList) = false := by decide
  simp only [Apart, ← List.isPrefixOf_iff_prefix, Bool.not_eq_true]
  exact hends

private theorem filter_runAll_builtin {c : Check} (hc : c ∈ Linter.builtin.checks) (x : Context) :
    (runAll Linter.builtin.checks x .empty).filter (fun _ => c.isOwn) = ProblemTable.empty.record (c.share x) := by
  rcases List.mem_pair.1 hc with rfl | rfl
  · exact filter_runAll [] [prefixes] (by simpa using apart_builtin) x
  · exact filter_runAll [encoding] [] (by simpa using apart_builtin.symm) x

/-- Whatever `p` and `q` say besides, if they have the same section for `c`, a run has the same problems that
`isOwn` accepts with both, resource by resource and in order: they are the share of `c`. -/
theorem own_problems_of_section {c : Check} (hc : c ∈ Linter.builtin.checks) (target : String)
    (files : Files.FileSystem) {p q : Config.Parameters} (hsection : p.section? c.name = q.section? c.name) :
    let problems (p : Config.Parameters) := runAll Linter.builtin.checks ⟨p, target, files⟩ .empty
    (problems p).filter (fun _ => c.isOwn) = (problems q).filter (fun _ => c.isOwn) ∧
      (∀ r, ((problems p).get r).filter c.isOwn = ((problems q).get r).filter c.isOwn) ∧
      (problems q).filter (fun _ => c.isOwn) = ProblemTable.empty.record (c.share ⟨q, target, files⟩) := by
  intro problems
  have hshare : c.share ⟨p, target, files⟩ = c.share ⟨q, target, files⟩ :=
    (goesBySettings_builtin c hc).share_eq (x := ⟨q, target, files⟩) hsection
  have htables : (problems p).filter (fun _ => c.isOwn) = (problems q).filter (fun _ => c.isOwn) := by
    rw [filter_runAll_builtin hc, filter_runAll_builtin hc, hshare]
  refine ⟨htables, fun r => ?_, filter_runAll_builtin hc _⟩
  rw [← ProblemTable.get_filter (fun _ => c.isOwn), htables, ProblemTable.get_filter]

/-- Rules that are none, and other values that differ from the default. -/
def brokenRules : Config.Parameters :=
  { Config.Parameters.default with
    baseUri := some "http://e/"
    targetDir := some "data"
    rules := [⟨none, none, "b.ttl"⟩]
    validation := .mapping [("prefix", .scalar "on")] }

/-- The section of `brokenRules` leaves what is said about a missing line end. -/
theorem own_problems_of_section_brokenRules :
    let files := Dataset.oneFile "a.ttl" "x"
    encoding ∈ Linter.builtin.checks ∧
      brokenRules.section? encoding.name = Config.Parameters.default.section? encoding.name ∧
      prefixes.settings brokenRules ≠ prefixes.settings .default ∧
      (runAll Linter.builtin.checks ⟨brokenRules, ".", files⟩ .empty).filter (fun _ => encoding.isOwn) =
        ProblemTable.empty.push "a.ttl" ⟨.warning, "fileEncoding: missing final newline"⟩ := by
  intro files
  have hc : encoding ∈ Linter.builtin.checks := List.mem_cons_self ..
  have hsection : brokenRules.section? encoding.name = Config.Parameters.default.section? encoding.name := rfl
  have hname : Files.FileSystem.IsFileName "a.ttl" :=
    ⟨⟨by decide, by decide, by decide, by decide⟩, by decide, by decide⟩
  have hrun : encoding.run ⟨.default, ".", files⟩ = .ok [⟨"a.ttl", .warning, "missing final newline"⟩] := by
    have hfind := Dataset.find_oneFile "x" hname (by decide) .default (s := .default) (by decide)
    have hmessages : Encoding.textMessages .default "x".toList = ["missing final newline"] := by decide
    have hbelow : Files.Path.nameBelow "." (Files.Path.join "." "a.ttl") = "a.ttl" := by decide
    rw [hmessages, List.map_singleton, hbelow] at hfind
    change (Encoding.find _ .default).mapError _ = _
    rw [hfind]
    rfl
  obtain ⟨htables, -, hown⟩ := own_problems_of_section hc "." files hsection
  refine ⟨hc, hsection, by rintro ⟨⟩, ?_⟩
  rw [htables, hown, share, hrun]
  rfl

end Check

end DatasetLint
