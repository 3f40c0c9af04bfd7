import DatasetLint.Config.Discovery
import DatasetLint.Report.Format
import DatasetLint.Text.Pieces

/-!
# The command line

Arguments become `Options`. An argument sets a value, is a switch, or asks for something else than a run.
A value stands behind its argument or is attached to it, and no value starts with a dash. A value that
stands behind is looked at only once the next argument is known, so that an argument without meaning
is the fault that counts.
-/

namespace DatasetLint

/-- What the command line asks of a run. -/
structure Options where
  baseUri : Option String
  targetDir : Option String
  outputDir : Option String
  originDir : Option String
  config : Option String
  suppressPath : Option String
  format : Report.Format
  /-- Notifications for an editor take the place of the report. -/
  diagnostics : Bool
  noColor : Bool
  debug : Bool
deriving DecidableEq, Repr

namespace Options

def default : Options := ⟨none, none, none, none, none, none, .human, false, false, false⟩

instance : Inhabited Options := ⟨default⟩

/-- The directory that files without a given path are looked for in. -/
def searchDirectory (o : Options) : String := o.targetDir.getD "."

/-- The values that take precedence over the configuration file. -/
def overrides (o : Options) : Config.Overrides :=
  ⟨o.targetDir, o.outputDir, o.baseUri, o.originDir, o.suppressPath⟩

end Options

namespace CommandLine

/-- The arguments that take a value. -/
inductive Setting where
  | baseUri
  | targetDir
  | outputDir
  | originDir
  | config
  | suppressPath
  | format
deriving DecidableEq, Repr

/-- The arguments that take none and change the run. -/
inductive Switch where
  | diagnostics
  | noColor
  | debug
deriving DecidableEq, Repr

inductive Argument where
  | setting (s : Setting)
  | switch (s : Switch)
  | help
  | version
deriving DecidableEq, Repr

/-- The argument of a name behind two dashes. -/
def Argument.ofName? : String → Option Argument
  | "baseuri" => some (.setting .baseUri)
  | "targetdir" => some (.setting .targetDir)
  | "outputdir" => some (.setting .outputDir)
  | "origindir" => some (.setting .originDir)
  | "config" => some (.setting .config)
  | "suppress" => some (.setting .suppressPath)
  | "format" => some (.setting .format)
  | "diagnostics" => some (.switch .diagnostics)
  | "no-color" => some (.switch .noColor)
  | "debug" => some (.switch .debug)
  | "help" => some .help
  | "version" => some .version
  | _ => none

/-- The argument of a letter behind one dash. -/
def Argument.ofLetter? : Char → Option Argument
  | 't' => some (.setting .targetDir)
  | 'o' => some (.setting .outputDir)
  | 'c' => some (.setting .config)
  | 'h' => some .help
  | 'V' => some .version
  | _ => none

/-- Why there is nothing to run. -/
inductive Stop where
  | help
  | version
  | unknown (word : String)
  | missingValue (s : Setting)
  | refusedValue (s : Setting) (reason : String)
  /-- An argument that counts once was given again. -/
  | repeated (a : Argument)
  | unneededValue (a : Argument)
deriving DecidableEq, Repr

namespace Stop

/-- Help and the version were asked for; all else is a fault. -/
def exitCode : Stop → UInt8
  | help | version => 0
  | _ => 2

end Stop

/-! ## Words -/

/-- What a word of the command line is on its own. -/
inductive Word where
  /-- A value, if one is wanted. -/
  | plain (text : String)
  /-- The two dashes behind which no argument follows. -/
  | terminator
  | argument (a : Argument) (attached : Option String)
  | unknown (text : String)
deriving DecidableEq, Repr

/-- What follows the name of an argument, if it begins with an equals sign. -/
def attached? : List Char → Option String
  | '=' :: cs => some (String.ofList cs)
  | _ => none

/-- What follows the letter of an argument: nothing, or a value, perhaps behind an equals sign. Letters
that take no value stand alone. -/
def ofLetter (text : String) (c : Char) (rest : List Char) : Word :=
  match Argument.ofLetter? c with
  | none => .unknown text
  | some (.setting s) =>
    .argument (.setting s) (if rest.isEmpty then none else (attached? rest).or (some (String.ofList rest)))
  | some a => .argument a none

def Word.ofText (text : String) : Word :=
  match text.toList with
  | ['-', '-'] => .terminator
  | '-' :: '-' :: cs =>
    let name := cs.takeWhile (· != '=')
    match Argument.ofName? (String.ofList name) with
    | none => .unknown text
    | some a => .argument a (attached? (cs.drop name.length))
  | '-' :: c :: rest => ofLetter text c rest
  | _ => .plain text

/-! ## Values -/

/-- The value of a setting, if it is not refused. A path must not be empty. -/
def assign (s : Setting) (value : String) (o : Options) : Except Stop Options :=
  let path (o : Options) : Except Stop Options :=
    if value.isEmpty then .error (.missingValue s) else .ok o
  match s with
  | .baseUri => .ok { o with baseUri := some value }
  | .targetDir => path { o with targetDir := some value }
  | .outputDir => path { o with outputDir := some value }
  | .originDir => path { o with originDir := some value }
  | .config => path { o with config := some value }
  | .suppressPath => path { o with suppressPath := some value }
  | .format =>
    match Report.Format.read value with
    | .ok f => .ok { o with format := f }
    | .error reason => .error (.refusedValue s reason)

def Switch.turnOn : Switch → Options → Options
  | diagnostics, o => { o with diagnostics := true }
  | noColor, o => { o with noColor := true }
  | debug, o => { o with debug := true }

/-! ## Reading -/

/-- The words so far. -/
structure Reading where
  options : Options
  given : List Argument
  /-- The setting that was met last, and its value if that is known, unless it is done. -/
  waiting : Option (Setting × Option String)

namespace Reading

def start : Reading := ⟨.default, [], none⟩

/-- An argument counts as given, once. -/
def note (r : Reading) (a : Argument) : Except Stop Reading :=
  if a ∈ r.given then .error (.repeated a) else .ok { r with given := a :: r.given }

/-- A setting takes a value. -/
def take (r : Reading) (s : Setting) (value : String) : Except Stop Reading := do
  let r ← r.note (.setting s)
  return { r with options := ← assign s value r.options }

/-- The setting that waits is done; it must have a value. -/
def settle (r : Reading) : Except Stop Reading :=
  match r.waiting with
  | none => .ok r
  | some (s, none) => .error (.missingValue s)
  | some (s, some v) => { r with waiting := none }.take s v

/-- The next argument. -/
def argument (r : Reading) : Argument → Option String → Except Stop Reading
  | .setting s, none => do return { ← r.settle with waiting := some (s, none) }
  | .setting s, some v => do (← r.settle).take s v
  | a, some _ => .error (.unneededValue a)
  | .switch s, none => do
    let r ← (← r.settle).note (.switch s)
    return { r with options := s.turnOn r.options }
  | .help, none => do
    let _ ← r.settle
    .error .help
  | .version, none => do
    let _ ← r.settle
    .error .version

end Reading

/-- The options of some words behind what is read already. -/
def readFrom (r : Reading) : List String → Except Stop Options
  | [] => r.settle.map (·.options)
  | text :: rest =>
    match Word.ofText text with
    | .unknown text => .error (.unknown text)
    | .argument a attached =>
      match r.argument a attached with
      | .error e => .error e
      | .ok r => readFrom r rest
    | .terminator =>
      match rest with
      | [] => r.settle.map (·.options)
      | text :: _ => .error (.unknown text)
    | .plain text =>
      match r.waiting with
      | some (s, none) => readFrom { r with waiting := some (s, some text) } rest
      | _ => .error (.unknown text)

/-- The options of a command line. -/
def read (words : List String) : Except Stop Options := readFrom .start words

/-! ## What is said instead of a run -/

def versionText : String := "rdflint 0.2.0\n"

def helpText : String :=
  Text.intercalate "\n" [
    "Linter for RDF datasets",
    "",
    "Usage: rdflint [OPTIONS]",
    "",
    "Options:",
    "      --baseuri <URI>      Base URI of the dataset",
    "  -t, --targetdir <DIR>    Directory of the dataset (default: the current one)",
    "  -o, --outputdir <DIR>    Directory of the problem report (default: the target directory)",
    "      --origindir <DIR>    Directory of an earlier version of the dataset",
    "  -c, --config <FILE>      Configuration file (default: searched in the target directory)",
    "      --suppress <FILE>    File of known problems (default: searched in the target directory)",
    "      --format <FORMAT>    Format of the report: human, json, yaml (default: human)",
    "      --diagnostics        Write notifications for an editor instead of the report",
    "      --no-color           Write without colors",
    "      --debug              Write a log",
    "  -h, --help               Show this help",
    "  -V, --version            Show the version",
    ""]

def Setting.name : Setting → String
  | baseUri => "baseuri"
  | targetDir => "targetdir"
  | outputDir => "outputdir"
  | originDir => "origindir"
  | config => "config"
  | suppressPath => "suppress"
  | format => "format"

def Switch.name : Switch → String
  | diagnostics => "diagnostics"
  | noColor => "no-color"
  | debug => "debug"

def Argument.name : Argument → String
  | setting s => s.name
  | switch s => s.name
  | help => "help"
  | version => "version"

theorem Argument.ofName?_name (a : Argument) : Argument.ofName? a.name = some a := by
  cases a with
  | setting s => cases s <;> rfl
  | switch s => cases s <;> rfl
  | help => rfl
  | version => rfl

/-- What is written before the program stops. Left out are hints below a mistake, such as a similar argument. -/
def Stop.text : Stop → String
  | help => helpText
  | version => versionText
  | unknown word => "error: unexpected argument '" ++ word ++ "' found\n"
  | missingValue s => "error: a value is required for '--" ++ s.name ++ "' but none was supplied\n"
  | refusedValue s reason => "error: invalid value for '--" ++ s.name ++ "': " ++ reason ++ "\n"
  | repeated a => "error: the argument '--" ++ a.name ++ "' cannot be used multiple times\n"
  | unneededValue a => "error: unexpected value for '--" ++ a.name ++ "' found; no more were expected\n"

end CommandLine

end DatasetLint
