import DatasetLint.Proofs.Files.Written
import DatasetLint.Proofs.Problems.Table
import DatasetLint.Proofs.Yaml.Tree
import DatasetLint.Report.Format

/-!
# The report reads back

The report of any problems is text that reads back as those problems: its value is made of texts, so its
document is the node of that value, and the reader takes from the node the resources with their problems.
-/

namespace DatasetLint

open Yaml

/-! ## Readers of written values -/

namespace Yaml.Reader

/-- A text `t` is read whatever its style. -/
theorem text_of_shows {t : String} {x : Node} (h : Shows (.scalar (.string t)) x) (expected : String) (d : Nat)
    (path : Path) : text expected d path x = pure t := by
  cases h
  rfl

private theorem items_of_shows {α : Type} {r : Reader α} {d : Nat} {value : α → Value}
    (hr : ∀ a x path, Shows (value a) x → r d path x = pure a) {as : List α} {xs : List Node}
    (h : ShowsItems (as.map value) xs) (path : Path) (i : Nat) :
    items (fun i y => r d (.item path i) y) i xs = pure as := by
  induction as generalizing xs i with
  | nil =>
    cases h
    rfl
  | cons a as ih =>
    cases h with
    | cons hx hs => rw [items, hr a _ _ hx, pure_bind, ih hs, pure_bind]

/-- A sequence of the items `as` is read item by item. -/
theorem list_of_shows {α : Type} {r : Reader α} {d : Nat} {value : α → Value}
    (hr : ∀ a x path, Shows (value a) x → r d path x = pure a) {as : List α} {x : Node}
    (h : Shows (.sequence (as.map value)) x) (path : Path) : list r (d + 1) path x = pure as := by
  cases h with
  | @sequence _ xs m hs =>
    have hitems := items_of_shows hr hs path 0
    show Read.located _ (items _ 0 xs) = pure as
    rw [hitems]
    rfl

/-- A mapping from texts is read entry by entry of `es`. -/
theorem map_of_shows {α : Type} {r : Reader α} {d : Nat} {value : α → Value}
    (hr : ∀ a x path, Shows (value a) x → r d path x = pure a) {es : List (String × α)} {x : Node}
    (h : Shows (.mapping (es.map fun e => (.scalar (.string e.1), value e.2))) x) (path : Path) :
    map r (d + 1) path x = pure es := by
  cases h with
  | @mapping _ ns m hs =>
    have hentries : ns.mapM (fun n => do
        let key ← text "a string" d path n.1
        let a ← r d (path.value n.1) n.2
        pure (key, a)) = (pure es : Read _) := by
      clear m
      induction es generalizing ns with
      | nil =>
        cases hs
        rfl
      | cons e es ih =>
        cases hs with
        | cons hkey hx hs =>
          rw [List.mapM_cons, ih hs]
          simp only [text_of_shows hkey, hr _ _ _ hx, pure_bind]
    exact congrArg (Read.located _) hentries

/-- The field `f` of a record, if it is met for the first time, is read by its reader. -/
theorem fields_of_shows {σ : Type} {known : List (Field σ)} {f : Field σ} {key : String} {k v : Node}
    (hkey : Shows (.scalar (.string key)) k) (hfind : known.find? (·.name == key) = some f) {seen : List String}
    (hseen : seen.contains key = false) {s s' : σ} {d : Nat} {path : Path}
    (hassign : f.assign s d (path.value k) v = pure s') (es : List (Node × Node)) :
    fields false known d path seen s ((k, v) :: es) = fields false known d path (key :: seen) s' es := by
  have hread : fieldKey false known d path k = pure key := by
    cases hkey
    rfl
  rw [fields, hread, pure_bind]
  simp only [hfind, hseen, hassign, Bool.false_eq_true, if_false, pure_bind]

end Yaml.Reader

namespace Report.Document

/-! ## The report -/

private theorem textual_report (s : ProblemTable) : Textual (report s) := by
  have hproblem : ∀ p, Textual (problem p) := by
    intro p
    refine .mapping ?_ ?_
    · simp
    · simp only [List.forall_mem_cons]
      exact ⟨.text _, .text _, List.forall_mem_nil _⟩
  refine .mapping (List.forall_mem_map.2 fun b hb => ⟨b.1, rfl⟩) (List.forall_mem_map.2 fun b hb => ?_)
  exact .sequence (List.forall_mem_map.2 fun p _ => hproblem p)

private theorem severityReader_of_shows {v : Severity} {x : Node} (h : Shows (.scalar (.string v.label)) x) (d : Nat)
    (path : Path) : severityReader d path x = pure v := by
  cases h
  cases v <;> rfl

/-- The problem `p` is read with its severity and its message. -/
theorem problemReader_of_shows (d : Nat) (p : Problem) (x : Node) (path : Path) (h : Shows (problem p) x) :
    problemReader (d + 1) path x = pure p := by
  cases h with
  | @mapping _ ns m hs =>
    cases hs with
    | @cons _ n _ ns hlevel hseverity hs =>
      cases hs with
      | @cons _ n' _ ns hmessage htext hs =>
        cases hs
        -- both fields are there, in the order in which they are written
        let level : Reader.Field Problem :=
          .ofReader "level" true severityReader fun a p => { p with severity := a }
        let message : Reader.Field Problem :=
          .ofReader "message" true (.text "a string") fun a p => { p with message := a }
        have hlevel' : level.assign ⟨.warning, ""⟩ d (path.value n.1) n.2 = pure ⟨p.severity, ""⟩ := by
          show _ <$> severityReader d (path.value n.1) n.2 = _
          rw [severityReader_of_shows hseverity, map_pure]
        have hmessage' : message.assign ⟨p.severity, ""⟩ d (path.value n'.1) n'.2 = pure p := by
          show _ <$> Reader.text "a string" d (path.value n'.1) n'.2 = _
          rw [Reader.text_of_shows htext, map_pure]
        have hfields : Reader.fields false [level, message] d path [] ⟨.warning, ""⟩ [n, n'] =
            pure (p, ["message", "level"]) := by
          rw [Reader.fields_of_shows hlevel rfl rfl hlevel', Reader.fields_of_shows hmessage rfl rfl hmessage']
          rfl
        have hfollow : Node.follow (.mapping m none none [n, n']) = pure (.mapping m none none [n, n']) := rfl
        have hentries : Reader.entriesOf "struct Problem" (d + 1) (.mapping m none none [n, n']) =
            pure (d, [n, n']) := rfl
        rw [problemReader, Reader.record, hfollow, pure_bind]
        show Read.located _ (Reader.entriesOf "struct Problem" (d + 1) (.mapping m none none [n, n']) >>= _) = _
        rw [hentries, pure_bind]
        show Read.located _ (Reader.fields false [level, message] d path [] ⟨.warning, ""⟩ [n, n'] >>= _) = _
        rw [hfields]
        rfl

/-- The report of any problems `s` reads back as those problems. -/
theorem read_render (s : ProblemTable) : read (render s) = .ok s := by
  obtain ⟨x, hdocument, hshows⟩ := Document.ofText_render (textual_report s) (by simp [report])
  have hread : Reader.map (.list problemReader) 128 .root x = pure s.buckets :=
    Reader.map_of_shows (fun ps y path hy => Reader.list_of_shows (problemReader_of_shows 125) hy path) hshows .root
  have htext : readText (Reader.map (.list problemReader)) (render s) = .ok s.buckets := by
    rw [readText, render, hdocument, Yaml.Document.read]
    simp only [Option.getD_some, depthLimit, hread]
    rfl
  show (readText _ (render s)).map ProblemTable.ofList = .ok s
  rw [htext]
  exact congrArg Except.ok s.ofList_buckets

/-- The report is written to the one place for it, `fileName` in `directory`. -/
theorem path_of_write {s : ProblemTable} {directory path : String} {files files' : Files.FileSystem}
    (h : write s directory files = (files', .ok path)) : path = Files.Path.join directory fileName := by
  rw [write] at h
  split at h
  · cases h
  · simp only at h
    split at h
    · cases h
    · cases h
      rfl

/-- The report that was written is the text of the file at `path`. -/
theorem readText_write {s : ProblemTable} {directory path : String} {files files' : Files.FileSystem}
    (h : write s directory files = (files', .ok path)) : files'.readText path = .ok (render s) := by
  rw [write] at h
  split at h
  · cases h
  · simp only at h
    split at h
    · cases h
    · rename_i hwrite
      cases h
      rw [Files.FileSystem.readText, Files.FileSystem.read_write hwrite]
      simp only [Text.Utf8.decode_toUTF8]

/-- The report of any problems `s` is read as `s`, from what `Format.yaml` shows in any color and from the file at
the `path` that `write` puts it to. -/
theorem report_reads_back (s : ProblemTable) :
    (∀ color, read (Format.yaml.render color s) = .ok s) ∧
      ∀ directory files files' path, write s directory files = (files', .ok path) →
        ∃ t, files'.readText path = .ok t ∧ read t = .ok s :=
  ⟨fun _ => read_render s, fun _ _ _ _ h => ⟨render s, readText_write h, read_render s⟩⟩

/-- A report of two problems, one of them over several lines, is written to an empty directory and read back. -/
theorem report_reads_back_empty_directory :
    let s := (ProblemTable.empty.push "a.rdf" ⟨.error, "broken"⟩).push "a.rdf" ⟨.warning, " line\n\n- null: "⟩
    ∃ files t, write s "" ⟨.directory [], []⟩ = (files, .ok fileName) ∧
      files.readText fileName = .ok t ∧ read t = .ok s := by
  intro s
  have hleads : Files.FileSystem.Leads ⟨.directory [], []⟩ Files.FileSystem.linkLimit [] [.name fileName]
      (.absent [fileName]) := .absent rfl (by decide) rfl
  have hresolve : Files.FileSystem.resolve ⟨.directory [], []⟩ fileName = .ok (.absent [fileName]) := by
    rw [Files.FileSystem.resolve, if_neg (by decide), if_neg (by decide), if_neg (by decide)]
    exact hleads.walk_eq
  have hdirectory : Files.FileSystem.createDirectories ⟨.directory [], []⟩ "" = (⟨.directory [], []⟩, none) := rfl
  have hjoin : Files.Path.join "" fileName = fileName := by decide
  have hwrite : write s "" ⟨.directory [], []⟩ =
      (Files.FileSystem.put ⟨.directory [], []⟩ [fileName] (.file (render s).toUTF8), .ok fileName) := by
    rw [write, hdirectory]
    simp only [hjoin, Files.FileSystem.write, hresolve]
  obtain ⟨t, htext, hread⟩ := (report_reads_back s).2 _ _ _ _ hwrite
  exact ⟨_, t, hwrite, htext, hread⟩

end Report.Document

end DatasetLint
