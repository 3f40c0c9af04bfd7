import DatasetLint.Config.Parameters
import DatasetLint.Files.System
import DatasetLint.RunError

/-!
# Finding and completing the parameters

Where configuration files are looked for, how one is loaded, and which values from the command line take
the place of what it says.
-/

namespace DatasetLint.Config

open Files

/-- Where a file of some name is looked for, the first place first. -/
def places (name : String) : List String :=
  [name, "." ++ name, ".rdflint/" ++ name, "config/rdflint/" ++ name, ".circleci/" ++ name]

/-- The first place under a directory that has a file. -/
def firstFile? (s : FileSystem) (parent name : String) : Option String :=
  ((places name).map (Path.join parent)).find? s.isFile

/-- The configuration file for a directory. -/
def configFile? (s : FileSystem) (parent : String) : Option String :=
  firstFile? s parent "rdflint-config.yml"

/-- The file of known problems for a directory. -/
def suppressionFile? (s : FileSystem) (parent : String) : Option String :=
  firstFile? s parent "rdflint-suppress.yml"

/-- Values that take precedence over the configuration file. -/
structure Overrides where
  targetDir : Option String
  outputDir : Option String
  baseUri : Option String
  originDir : Option String
  suppressPath : Option String
deriving DecidableEq, Repr

namespace Parameters

/-- The parameters in the text of a file. -/
def ofFileText (path text : String) : Except RunError Parameters :=
  (ofText text).mapError fun e => .config path e.message

/-- The parameters in a file, or those without any file. -/
def load (s : FileSystem) : Option String → Except RunError Parameters
  | none => .ok default
  | some path =>
    match s.readText path with
    | .error .notFound => .error (.configNotFound path)
    | .error e => .error (.files e.message)
    | .ok text => ofFileText path text

/-- The parameters with the given values in place of their own. Directories that are still missing
get their defaults. A file of known problems that lies under `parent` counts as given. -/
def complete (s : FileSystem) (o : Overrides) (parent : String) (p : Parameters) : Parameters :=
  let target := (o.targetDir.or p.targetDir).or (some ".")
  { p with
    targetDir := target
    outputDir := (o.outputDir.or p.outputDir).or target
    baseUri := o.baseUri.or p.baseUri
    originDir := o.originDir.or p.originDir
    suppressPath := (o.suppressPath.or (suppressionFile? s parent)).or p.suppressPath }

end Parameters

end DatasetLint.Config
