import DatasetLint.Check.Encoding
import DatasetLint.Proofs.Dataset.Added

/-!
# A working directory with one file

The smallest dataset: what is read under the name of its file, what is collected, and that nothing is found under
any other name.
-/

namespace DatasetLint.Dataset

open Files

/-- A working directory that holds one file, `name`. -/
def oneFile (name text : String) : FileSystem := ⟨.directory [(name, .file text.toUTF8)], []⟩

variable {name text : String}

theorem resolve_oneFile : (oneFile name text).resolve "." = .ok (.found [] (oneFile name text).root) := by
  have hsteps : Path.steps "." = [.here] := by decide
  refine FileSystem.resolve_eq_ok_iff.2 ⟨by decide, by decide, by decide, ?_⟩
  rw [hsteps]
  exact .here rfl (.found rfl)

theorem entry_oneFile (hname : FileSystem.IsFileName name)
    (hlength : (Path.join "." name).utf8ByteSize < FileSystem.pathLimit) :
    (oneFile name text).entry (Path.join "." name) = .ok (.file text.toUTF8) := by
  have hlookup : [(name, Entry.file text.toUTF8)].lookup name = some (.file text.toUTF8) := List.lookup_cons_self
  rw [FileSystem.entry, FileSystem.resolve_join resolve_oneFile hname hlookup (fun _ h => by cases h) hlength]

/-- The file is collected if its `name` is wanted. -/
theorem files_oneFile (wanted : List String) : files (oneFile name text) "." wanted =
    .ok (if isWanted wanted name then [Path.join "." name] else []) := by
  rw [files_of_not_tooLong wanted resolve_oneFile rfl]
  change Except.ok (List.map _ (List.mergeSort (filesAt _ _ _ _ _ ++ []) _)) = _
  rw [filesAt, List.append_nil]
  split
  · rw [List.mergeSort_singleton]
    rfl
  · rw [List.mergeSort_nil]
    rfl

variable (text) in
/-- What `Encoding.find` says is about the `text` of the file. -/
theorem find_oneFile (hname : FileSystem.IsFileName name)
    (hlength : (Path.join "." name).utf8ByteSize < FileSystem.pathLimit) (p : Config.Parameters)
    {s : Check.Encoding.Settings} (hwanted : isWanted s.extensions name = true) :
    Check.Encoding.find ⟨p, ".", oneFile name text⟩ s =
      .ok ((Check.Encoding.textMessages s text.toList).map fun m =>
        ⟨Path.nameBelow "." (Path.join "." name), s.severity, m⟩) := by
  have hread : (oneFile name text).read (Path.join "." name) = .ok text.toUTF8 := by
    rw [FileSystem.read, entry_oneFile hname hlength]
  rw [Check.Encoding.find, files_oneFile, if_pos hwanted]
  simp only [Check.Encoding.findIn, hread, Check.Encoding.fileProblems, Text.Utf8.decode_toUTF8, Except.map,
    List.map_map, List.append_nil]
  rfl

end DatasetLint.Dataset
