import DatasetLint.Proofs.Files.Uri

/-!
# Paths and URIs there and back

The path that a URI leads back to has the same URI, so it is a normal form of the path that the URI was made
from. It is that path itself if its separators are those of its kind: slashes from the front of an absolute path
on, backslashes behind a drive.
-/

namespace DatasetLint.Files.Uri

open Text

/-- What stands before the first separator of the path `cs`. -/
def firstSegment (cs : List Char) : List Char := cs.takeWhile fun c => c != '/' && c != '\\'

/-- The name of a drive: a letter of ASCII and a colon. -/
def IsDrive (cs : List Char) : Prop := ∃ c : Char, c.isAlpha = true ∧ cs = [c, ':']

theorem isDriveLetter_iff {cs : List Char} : isDriveLetter cs = true ↔ IsDrive cs := by
  rw [isDriveLetter.eq_def]
  split
  · rename_i c
    refine ⟨fun h => ⟨c, h, rfl⟩, ?_⟩
    rintro ⟨d, hd, ⟨⟩⟩
    exact hd
  · rename_i hother
    refine ⟨fun h => absurd h Bool.false_ne_true, ?_⟩
    rintro ⟨d, -, rfl⟩
    exact absurd rfl (hother d)

/-! ## The names of a path -/

private theorem head?_partsOf (cs : List Char) : (partsOf cs).head? = some (firstSegment cs) := by
  have hnot (c : Char) : (!(c == '/' || c == '\\')) = (c != '/' && c != '\\') := Bool.not_or ..
  rw [partsOf, head?_pieces, firstSegment]
  simp only [hnot]

/-- Whether `path` begins with a drive goes by its `firstSegment`, behind the slash that may stand in front. -/
theorem beginsWithDrive_iff (path : String) : beginsWithDrive path = true ↔
    IsDrive (firstSegment (if path.toList.head? = some '/' then path.toList.tail else path.toList)) := by
  rw [beginsWithDrive, names, ← isDriveLetter_iff]
  split
  · rw [head?_partsOf, Option.any_some]
  · rw [head?_partsOf, Option.any_some]

/-- No name `n` of a path holds a separator. -/
theorem separates_of_mem_names {path n : List Char} (hn : n ∈ names path) {c : Char} (hc : c ∈ n) :
    (c == '/' || c == '\\') = false := by
  rw [names] at hn
  split at hn
  · exact separates_of_mem_pieces hn hc
  · exact separates_of_mem_pieces hn hc

/-- Names `ns` that are written as a path are the names of that path. -/
theorem names_ofNames {ns : List (List Char)} (hne : ns ≠ [])
    (h : ∀ n ∈ ns, ∀ c ∈ n, (c == '/' || c == '\\') = false) : names (ofNames ns) = ns := by
  rw [ofNames]
  split
  · rename_i hdrive
    -- the letter of the drive stands in front, so no slash does
    obtain ⟨d, hd, c, -, rfl⟩ : ∃ d, ns.head? = some d ∧ IsDrive d := by
      obtain ⟨d, hd, hletter⟩ := (Option.any_eq_true _ _).1 hdrive
      exact ⟨d, hd, isDriveLetter_iff.1 hletter⟩
    obtain ⟨rest, rfl⟩ := List.head?_eq_some_iff.1 hd
    have hc : c ≠ '/' := by
      rintro rfl
      exact absurd (h _ (List.mem_cons_self ..) '/' (List.mem_cons_self ..)) (by decide)
    have hhead : (join ['\\'] ([c, ':'] :: rest)).head? ≠ some '/' := by
      have hfirst : (join ['\\'] ([c, ':'] :: rest)).head? = some c := by cases rest <;> rfl
      rw [hfirst]
      exact fun heq => hc (Option.some.inj heq)
    rw [names, if_neg hhead]
    exact pieces_join_of_separates (by decide) hne h
  · rw [names, List.head?_cons, if_pos rfl, List.tail_cons]
    exact pieces_join_of_separates (by decide) hne h

/-! ## There and back -/

/-- A relative `path` comes back only if it begins with a drive and no slash is in it. -/
theorem toPath?_ofPath_eq_iff_of_relative {path : String} (h : path.toList.head? ≠ some '/') :
    toPath? (ofPath path) = some path ↔ beginsWithDrive path = true ∧ '/' ∉ path.toList := by
  cases hdrive : beginsWithDrive path with
  | true =>
    have hmap (cs : List Char) :
        (cs.map fun c => if (c == '/' || c == '\\') = true then '\\' else c) = cs ↔ '/' ∉ cs := by
      induction cs with
      | nil => simp
      | cons c cs ih => grind
    rw [toPath?_ofPath_of_drive hdrive, names, if_neg h, partsOf, join_pieces_eq_map, Option.some.injEq,
      ← String.toList_inj, String.toList_ofList, hmap]
    exact (and_iff_right rfl).symm
  | false =>
    rw [beginsWithDrive] at hdrive
    rw [toPath?_ofPath, ofNames, hdrive, if_neg Bool.false_ne_true, Option.some.injEq]
    refine iff_of_false (fun heq => h ?_) fun hboth => Bool.false_ne_true hboth.1
    rw [← heq, String.toList_ofList, List.head?_cons]

/-- The URI of the path `p` leads back to a path `q` that has the same URI. It is `p` itself exactly if `p` is
absolute and has no backslash and no drive in front, or has a drive in front and no slash. -/
theorem ofPath_normal_form (p : String) : ∃ q, toPath? (ofPath p) = some q ∧ ofPath q = ofPath p ∧
    (q = p ↔
      (p.toList.head? = some '/' ∧ '\\' ∉ p.toList ∧ ¬IsDrive (firstSegment p.toList.tail)) ∨
        (IsDrive (firstSegment p.toList) ∧ '/' ∉ p.toList)) := by
  refine ⟨_, toPath?_ofPath p, ?_, ?_⟩
  · rw [ofPath_eq_iff_names, String.toList_ofList]
    exact names_ofNames (names_ne_nil _) fun n hn c hc => separates_of_mem_names hn hc
  · have hback : String.ofList (ofNames (names p.toList)) = p ↔ toPath? (ofPath p) = some p := by
      rw [toPath?_ofPath, Option.some.injEq]
    have hdrive := beginsWithDrive_iff p
    rw [hback]
    by_cases hfront : p.toList.head? = some '/'
    · -- a path with a slash in front has one in it, so only the first case is left
      have hslash : '/' ∈ p.toList := List.mem_of_head? hfront
      rw [if_pos hfront] at hdrive
      rw [toPath?_ofPath_eq_iff (beq_iff_eq.2 hfront), ← Bool.not_eq_true, hdrive]
      simp only [hfront, hslash, not_true_eq_false, true_and, and_false, or_false]
    · rw [if_neg hfront] at hdrive
      rw [toPath?_ofPath_eq_iff_of_relative hfront, hdrive]
      simp only [hfront, false_and, false_or]

/-- A relative path comes back with a slash in front. -/
example : toPath? (ofPath "a\\b c") = some "/a/b c" := by decide +kernel

end DatasetLint.Files.Uri
