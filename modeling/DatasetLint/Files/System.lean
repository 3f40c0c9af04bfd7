import DatasetLint.Files.Path
import DatasetLint.Text.Utf8

/-!
# File systems

A tree of files, directories and symbolic links, and a directory in it that relative paths start from.
Reading and writing go by paths; links on the way are followed, up to forty of them. Left out are permissions,
special files and names that are not UTF-8.
-/

namespace DatasetLint.Files

/-- What a name in a directory stands for. A name and the target of a `link` are texts, as they are in a configuration,
on the command line and in reports; a name whose octets encode no text cannot be given there and has no place here. -/
inductive Entry where
  | file (content : ByteArray)
  | link (target : String)
  | directory (entries : List (String × Entry))

instance : Inhabited Entry := ⟨.directory []⟩

/-- Where an entry is: the names from the root on, none of them a link. -/
abbrev Location := List String

/-- Why something cannot be done with a path. -/
inductive FileFault where
  | notFound
  | alreadyThere
  | notDirectory
  | isDirectory
  | nameTooLong
  | tooManyLinks
  | notText
  | zeroInPath
deriving DecidableEq, Repr

def FileFault.message : FileFault → String
  | notFound => "No such file or directory (os error 2)"
  | alreadyThere => "File exists (os error 17)"
  | notDirectory => "Not a directory (os error 20)"
  | isDirectory => "Is a directory (os error 21)"
  | nameTooLong => "File name too long (os error 36)"
  | tooManyLinks => "Too many levels of symbolic links (os error 40)"
  | notText => "stream did not contain valid UTF-8"
  | zeroInPath => "file name contained an unexpected NUL byte"

namespace Entry

/-- The entry at a location below this one. -/
def at? : Entry → Location → Option Entry
  | e, [] => some e
  | directory es, n :: ns => (es.lookup n).bind (at? · ns)
  | _, _ :: _ => none

/-- The entries of a directory in which a name stands for `change` of what it did. -/
def alter (name : String) (change : Option Entry → Entry) : List (String × Entry) → List (String × Entry)
  | [] => [(name, change none)]
  | (n, e) :: es => if n = name then (n, change (some e)) :: es else (n, e) :: alter name change es

/-- The tree with another entry at a location. -/
def put : Entry → Location → Entry → Entry
  | _, [], new => new
  | directory es, n :: ns, new => directory (alter n (fun e => put (e.getD (directory [])) ns new) es)
  | e, _ :: _, _ => e

end Entry

/-- A tree with a current directory. -/
structure FileSystem where
  root : Entry
  current : Location

/-- Where a path leads: to an entry that is no link, or to a name that its directory does not have. -/
inductive Target where
  | found (place : Location) (entry : Entry)
  | absent (place : Location)

namespace FileSystem

/-- How many links are followed on the way to one entry. -/
def linkLimit : Nat := 40

/-- The most octets that a name may have. -/
def nameLimit : Nat := 255

/-- The octets from which on a path is too long. -/
def pathLimit : Nat := 4096

/-- From a location along some parts of a path. -/
def walk (s : FileSystem) (links : Nat) (place : Location) (rest : List Part) : Except FileFault Target :=
  match s.root.at? place, rest with
  | none, _ => .error .notFound
  | some e, [] => .ok (.found place e)
  | some (.directory _), .root :: rest => walk s links [] rest
  | some (.directory _), .here :: rest => walk s links place rest
  | some (.directory _), .up :: rest => walk s links place.dropLast rest
  | some (.directory es), .name n :: rest =>
    if nameLimit < n.utf8ByteSize then .error .nameTooLong
    else
      match es.lookup n, links with
      | none, _ => if rest.isEmpty then .ok (.absent (place ++ [n])) else .error .notFound
      | some (.link _), 0 => .error .tooManyLinks
      | some (.link t), links + 1 =>
        if t.isEmpty then .error .notFound
        else walk s links (if Path.isAbsolute t then [] else place) (Path.steps t ++ rest)
      | some _, links => walk s links (place ++ [n]) rest
  | some _, _ :: _ => .error .notDirectory
termination_by (links, rest.length)

/-- Where a path leads. -/
def resolve (s : FileSystem) (path : String) : Except FileFault Target :=
  if path.isEmpty then .error .notFound
  else if path.toList.contains '\x00' then .error .zeroInPath
  else if pathLimit ≤ path.utf8ByteSize then .error .nameTooLong
  else s.walk linkLimit (if Path.isAbsolute path then [] else s.current) (Path.steps path)

/-- The entry that a path leads to. -/
def entry (s : FileSystem) (path : String) : Except FileFault Entry :=
  match s.resolve path with
  | .error e => .error e
  | .ok (.absent _) => .error .notFound
  | .ok (.found _ e) => .ok e

def isFile (s : FileSystem) (path : String) : Bool :=
  match s.entry path with
  | .ok (.file _) => true
  | _ => false

def isDirectory (s : FileSystem) (path : String) : Bool :=
  match s.entry path with
  | .ok (.directory _) => true
  | _ => false

/-- The octets of a file. -/
def read (s : FileSystem) (path : String) : Except FileFault ByteArray :=
  match s.entry path with
  | .error e => .error e
  | .ok (.file b) => .ok b
  | .ok _ => .error .isDirectory

/-- The text of a file. -/
def readText (s : FileSystem) (path : String) : Except FileFault String :=
  match s.read path with
  | .error e => .error e
  | .ok b =>
    match Text.Utf8.decode b with
    | some t => .ok t
    | none => .error .notText

/-- The entries of a directory. -/
def list (s : FileSystem) (path : String) : Except FileFault (List (String × Entry)) :=
  match s.entry path with
  | .error e => .error e
  | .ok (.directory es) => .ok es
  | .ok _ => .error .notDirectory

def put (s : FileSystem) (place : Location) (e : Entry) : FileSystem := { s with root := s.root.put place e }

/-- A file gets a new content, and is created if only it was missing. -/
def write (s : FileSystem) (path : String) (content : ByteArray) : Except FileFault FileSystem :=
  match s.resolve path with
  | .error e => .error e
  | .ok (.found _ (.directory _)) => .error .isDirectory
  | .ok (.found place _) => .ok (s.put place (.file content))
  | .ok (.absent place) => .ok (s.put place (.file content))

/-- A new directory. Its name must be new, even if what it stands for is missing. -/
def createDirectory (s : FileSystem) (path : String) : Except FileFault FileSystem :=
  if path.isEmpty then .error .notFound
  else if path.toList.contains '\x00' then .error .zeroInPath
  else if pathLimit ≤ path.utf8ByteSize then .error .nameTooLong
  else
    let ss := Path.steps path
    let ss := if Path.endsWithSlash path then ss.dropLast else ss
    let start := if Path.isAbsolute path then [] else s.current
    match s.walk linkLimit start ss.dropLast, ss.getLast? with
    | .error e, _ => .error e
    | .ok (.absent _), _ => .error .notFound
    | .ok (.found place (.directory es)), some (.name n) =>
      if nameLimit < n.utf8ByteSize then .error .nameTooLong
      else if (es.lookup n).isSome then .error .alreadyThere
      else .ok (s.put (place ++ [n]) (.directory []))
    | .ok (.found _ (.directory _)), _ => .error .alreadyThere
    | .ok (.found ..), _ => .error .notDirectory

/-- The path itself and what is above it, from the path upwards; the last of them needs no
directory. -/
def ancestors (path : String) : List String :=
  path :: ((List.range (Path.parts path).length).reverse.map fun n => Path.ofParts ((Path.parts path).take n))

/-- Whether a path is there without having to be created. -/
def needsNone (path : String) : Bool := path.isEmpty || (Path.parent? path).isNone

/-- The directories that have to be created, from the outermost on: those paths upwards for which
there is no parent yet, behind the first one that can be created or is there. -/
def missing (s : FileSystem) : List String → Except FileFault (FileSystem × List String)
  | [] => .ok (s, [])
  | p :: ps =>
    if needsNone p then .ok (s, [])
    else
      match s.createDirectory p with
      | .ok s => .ok (s, [])
      | .error .notFound => (missing s ps).map fun (s, rest) => (s, rest ++ [p])
      | .error .alreadyThere => if s.isDirectory p then .ok (s, []) else .error .alreadyThere
      | .error e => .error e

/-- Directories one after the other; one that is there already is none to create. -/
def createEach (s : FileSystem) : List String → FileSystem × Option FileFault
  | [] => (s, none)
  | p :: ps =>
    match s.createDirectory p with
    | .ok s => createEach s ps
    | .error e => if e = .alreadyThere && s.isDirectory p then createEach s ps else (s, some e)

/-- A directory and all directories above it that are missing. -/
def createDirectories (s : FileSystem) (path : String) : FileSystem × Option FileFault :=
  match s.missing (ancestors path) with
  | .error e => (s, some e)
  | .ok (s, ps) => s.createEach ps

/-- The path of the current directory. -/
def currentPath (s : FileSystem) : String := Path.ofParts (.root :: s.current.map .name)

end FileSystem

end DatasetLint.Files
