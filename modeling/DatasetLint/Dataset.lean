import DatasetLint.Files.System
import DatasetLint.Text.Blank

/-!
# The files of a dataset

The files under a root directory that have one of some extensions, in the order of their names. Hidden
directories below the root are left out, and so are links to directories, so that a cycle of links
repeats nothing. All other directories are looked into, and one whose path is too long is an error.
-/

namespace DatasetLint.Dataset

open Files

/-- The extensions of files that hold triples. -/
def extensions : List String := ["rdf", "ttl", "nt", "owl"]

/-- Whether a file name has one of the extensions; the case of ASCII letters does not count. -/
def isWanted (wanted : List String) (name : String) : Bool :=
  match Path.extension? name with
  | none => false
  | some e => wanted.any fun w => w.toList.map Text.lowerAscii == e.toList.map Text.lowerAscii

/-- Whether a directory of this name is passed over. The name is a text (see `Entry`), so that there is always a first
character to be looked at, unless it is empty. -/
def isHidden (name : String) : Bool := name.toList.head? == some '.'

mutual

/-- The files that an entry of a directory leads to, each as the names on the way. -/
def filesAt (s : FileSystem) (wanted : List String) (directory name : String) : Entry → List (List String)
  | .directory es =>
    if isHidden name then [] else (filesIn s wanted (Path.join directory name) es).map (name :: ·)
  | .link _ =>
    if s.isDirectory (Path.join directory name) then []
    else if isWanted wanted name then [[name]] else []
  | .file _ => if isWanted wanted name then [[name]] else []

/-- The files that the entries of a directory lead to. -/
def filesIn (s : FileSystem) (wanted : List String) (directory : String) :
    List (String × Entry) → List (List String)
  | [] => []
  | (n, e) :: es => filesAt s wanted directory n e ++ filesIn s wanted directory es

end

mutual

/-- The directories that are looked into from an entry of a directory on, each as the names on the way. -/
def directoriesAt (name : String) : Entry → List (List String)
  | .directory es => if isHidden name then [] else [name] :: (directoriesIn es).map (name :: ·)
  | _ => []

/-- The directories that are looked into below a directory. -/
def directoriesIn : List (String × Entry) → List (List String)
  | [] => []
  | (n, e) :: es => directoriesAt n e ++ directoriesIn es

end

/-- The path of a file under a root. -/
def pathOf (root : String) (names : List String) : String := names.foldl Path.join root

/-- Whether the directory under some names has too long a path to be looked into. -/
def isTooLong (root : String) (names : List String) : Bool :=
  FileSystem.pathLimit ≤ (pathOf root names).utf8ByteSize

/-- The paths of all files under a root, in the order of their names, if all directories can be looked into. -/
def files (s : FileSystem) (root : String) (wanted : List String) : Except FileFault (List String) :=
  match s.list root with
  | .error e => .error e
  | .ok es =>
    if (directoriesIn es).any (isTooLong root) then .error .nameTooLong
    else
      .ok (((filesIn s wanted root es).mergeSort fun a b => @decide _ (List.decidableLE a b)).map (pathOf root))

end DatasetLint.Dataset
