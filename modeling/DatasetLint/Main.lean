import DatasetLint.Terminal

/-!
# The program

The files that a run may look at are taken into memory, the run works on them, and what it has changed
goes back to the disk.
-/

namespace DatasetLint.Program

open Files

/-- A location as a path. -/
def pathAt (place : Location) : String := Path.ofParts (.root :: place.map .name)

mutual

/-- What a name in a directory stands for; a link leads straight to what is behind all links. Of a
directory only its name is taken, or all that is not hidden. -/
partial def capture (deep : Bool) (directory name : String) : IO (Option Entry) := do
  let entry : IO.FS.DirEntry := ⟨directory, name⟩
  match ← entry.path.symlinkMetadata.toBaseIO with
  | .error _ => return none
  | .ok data =>
    match data.type with
    | .symlink =>
      match ← (IO.FS.realPath entry.path).toBaseIO with
      | .ok real => return some (.link real.toString)
      | .error _ => return some (.link "")
    | .file => return some (.file (← IO.FS.readBinFile entry.path))
    | .dir =>
      if !deep || Dataset.isHidden name then return some (.directory [])
      return some (.directory (← captureDirectory entry.path.toString))
    | .other => return none

/-- What is in a directory, without what is in hidden ones below it. -/
partial def captureDirectory (directory : String) : IO (List (String × Entry)) := do
  let entry : IO.FS.DirEntry := ⟨directory, ""⟩
  let mut entries := []
  for inner in ← entry.root.readDir do
    if let some e ← capture true directory inner.fileName then
      entries := (inner.fileName, e) :: entries
  return entries

end

/-- The targets of the links in an entry. -/
partial def linkTargets : Entry → List String
  | .file _ => []
  | .link t => [t]
  | .directory es => es.flatMap fun (_, e) => linkTargets e

/-- The files with what is on the way along some parts from a location. -/
partial def captureParts (s : FileSystem) (place : Location) : List Part → IO FileSystem
  | [] => return s
  | .root :: rest => captureParts s [] rest
  | .here :: rest => captureParts s place rest
  | .up :: rest => captureParts s place.dropLast rest
  | .name n :: rest => do
    let inner := place ++ [n]
    let known := s.root.at? inner
    match ← if known.isSome then pure known else capture false (pathAt place) n with
    | none => return s
    | some (.link t) => captureParts (s.put inner (.link t)) [] (Path.steps t ++ rest)
    | some e => captureParts (s.put inner e) inner rest

/-- The files with what a path leads to. -/
def capturePath (s : FileSystem) (path : String) : IO FileSystem :=
  captureParts s (if Path.isAbsolute path then [] else s.current) (Path.steps path)

/-- The files with all that is in the directory that a path leads to. -/
def captureTree (s : FileSystem) (path : String) : IO FileSystem := do
  let s ← capturePath s path
  match s.resolve path with
  | .ok (.found place (.directory _)) =>
    let tree : Entry := .directory (← captureDirectory (pathAt place))
    (linkTargets tree).foldlM capturePath (s.put place tree)
  | _ => return s

/-- The paths at which a run looks before it has its parameters. -/
def firstPaths (o : Options) : List String :=
  o.config.toList ++
    (Config.places "rdflint-config.yml" ++ Config.places "rdflint-suppress.yml").map (Path.join o.searchDirectory)

/-- The paths besides the target at which a run with some parameters looks. -/
def laterPaths (p : Config.Parameters) : List String :=
  p.suppressPath.toList ++ p.rules.map (fun r => Path.join p.target r.target) ++
    [Path.join p.output Report.Document.fileName]

/-- The files that a run may look at. -/
def snapshot (o : Options) : IO FileSystem := do
  let here ← IO.currentDir
  let current := (Path.steps here.toString).map Part.text
  let bare ← capturePath ⟨.directory [], current⟩ here.toString
  let first ← (firstPaths o).foldlM capturePath bare
  match Linter.parameters o first with
  | .error _ => return first
  | .ok p => (firstPaths o ++ laterPaths p).foldlM capturePath (← captureTree bare p.target)

/-- What an entry has become goes to the disk. -/
partial def save (place : Location) (old : Option Entry) (new : Entry) : IO Unit := do
  match new, old with
  | .link _, _ => return
  | .file content, some (.file before) =>
    unless content == before do IO.FS.writeBinFile (pathAt place) content
  | .file content, _ => IO.FS.writeBinFile (pathAt place) content
  | .directory es, _ =>
    if old.isNone then IO.FS.createDir (pathAt place)
    for (n, e) in es do
      save (place ++ [n]) (old.bind (·.at? [n])) e

/-- Whether the output has colors. -/
def useColor (o : Options) : IO Bool := do
  if o.noColor || (← IO.getEnv "NO_COLOR").isSome then return false
  (← IO.getStdout).isTty

def lint (o : Options) : IO UInt32 := do
  let color ← useColor o
  let before ← snapshot o
  let outcome := Linter.builtin.run color o before
  IO.print (outcome.output color)
  IO.eprint (outcome.complaints color)
  save [] (some before.root) outcome.files.root
  return outcome.verdict.exitCode.toUInt32

end DatasetLint.Program

def main (words : List String) : IO UInt32 := do
  match DatasetLint.CommandLine.read words with
  | .ok o => DatasetLint.Program.lint o
  | .error stop =>
    if stop.exitCode == 0 then IO.print stop.text else IO.eprint stop.text
    return stop.exitCode.toUInt32
