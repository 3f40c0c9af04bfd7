import DatasetLint.Proofs.Refusal
import DatasetLint.Run

/-!
# Exit codes

Every run comes to an end with an outcome. What can be refused on the way is a file that has to be loaded,
and each refusal is of a class that the run answers to itself; a report is always a text, and a report file
that could not be written is only complained of. So the exit code is settled by what is loaded and by the
problems that are left.
-/

namespace DatasetLint

/-! ## Classes of errors -/

namespace Linter

/-- All that a run loads: its `parameters`, and the `known` problems that these name. -/
def load (o : Options) (s : Files.FileSystem) : Except RunError (Config.Parameters × List Suppression) :=
  match parameters o s with
  | .error e => .error e
  | .ok p => (known p s).map (p, ·)

theorem execute_of_load_eq_ok {o : Options} {s : Files.FileSystem} {p : Config.Parameters}
    {entries : List Suppression} (h : load o s = .ok (p, entries)) (l : Linter) (color : Bool) :
    l.execute color o s = l.conclude color o p entries s := by
  rw [load] at h
  rw [execute]
  cases hp : parameters o s with
  | error e =>
    rw [hp] at h
    cases h
  | ok p' =>
    simp only [hp, Except.map_eq_ok_iff] at h
    obtain ⟨entries', hk, heq⟩ := h
    cases heq
    simp only [hk]

/-! ## What becomes of the problems -/

/-- `reportText` is a text in every format. -/
theorem reportText_eq_ok (color : Bool) (o : Options) (target : String) (s : Files.FileSystem)
    (found : ProblemTable) : ∃ text, reportText color o target s found = .ok text := by
  have hoctets : ∃ text : String, reportOctets color o target s found = text.toUTF8 := by
    rw [reportOctets]
    split
    · exact ⟨_, rfl⟩
    · exact ⟨_, rfl⟩
  obtain ⟨text, htext⟩ := hoctets
  refine ⟨text, ?_⟩
  simp only [reportText, htext, Text.Utf8.decode_toUTF8]

/-- Once all is loaded, the `verdict` is on the problems that `remaining` leaves, and the files are those that
`leaveReport` leaves behind. -/
theorem conclude_eq_ok (l : Linter) (color : Bool) (o : Options) (p : Config.Parameters)
    (entries : List Suppression) (s : Files.FileSystem) :
    ∃ r, l.conclude color o p entries s = .ok r ∧ r.verdict = verdict (l.remaining p entries s) ∧
      r.files = (leaveReport p.output s (l.remaining p entries s)).1 := by
  obtain ⟨text, htext⟩ := reportText_eq_ok color o p.target s (l.remaining p entries s)
  simp only [conclude, htext]
  exact ⟨_, rfl, rfl, rfl⟩

section Outcome

variable {l : Linter} {color : Bool} {o : Options} {s : Files.FileSystem} {r : Outcome}

theorem eq_of_conclude (hr : l.execute color o s = .ok r) {p : Config.Parameters} {entries : List Suppression}
    (hload : load o s = .ok (p, entries)) : r.verdict = verdict (l.remaining p entries s) ∧
      r.files = (leaveReport p.output s (l.remaining p entries s)).1 := by
  obtain ⟨r', hr', h⟩ := l.conclude_eq_ok color o p entries s
  rw [execute_of_load_eq_ok hload, hr'] at hr
  cases hr
  exact h

end Outcome

end Linter

end DatasetLint
