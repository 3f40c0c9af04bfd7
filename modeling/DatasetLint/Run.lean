import DatasetLint.Check.Encoding
import DatasetLint.Check.Prefixes
import DatasetLint.CommandLine
import DatasetLint.Report.Diagnostics
import DatasetLint.Stage
import DatasetLint.Suppression

/-!
# A run

Parameters and known problems are loaded, the stages and checks gather problems, known ones are left out,
and the rest is reported: on the terminal, and in a file of the output directory if there is any. A run
fails if an error is left, and it is broken off only if something cannot be loaded.
-/

namespace DatasetLint

/-- What a run says. -/
inductive Notice where
  | report (text : String)
  | success (text : String)
  | warning (text : String)
  | error (text : String)
deriving DecidableEq, Repr

/-- How a run ends. -/
inductive Verdict where
  | passed
  | failed
  | brokenOff
deriving DecidableEq, Repr

def Verdict.exitCode : Verdict → UInt8
  | passed => 0
  | failed => 1
  | brokenOff => 2

/-- What a run says in turn, how it ends, and the files that it leaves behind. -/
structure Outcome where
  notices : List Notice
  verdict : Verdict
  files : Files.FileSystem

/-- The stages and checks of runs. -/
structure Linter where
  stages : List Stage
  checks : List Check

namespace Linter

def builtin : Linter := ⟨[Stage.targets], [Check.encoding, Check.prefixes]⟩

/-- The problems that the stages and checks gather, known or not. -/
def problems (l : Linter) (x : Context) : ProblemTable :=
  Check.runAll l.checks x (Stage.runAll l.stages x .empty)

/-- The parameters of a run: those of a file, completed. -/
def parameters (o : Options) (s : Files.FileSystem) : Except RunError Config.Parameters :=
  (Config.Parameters.load s (o.config.or (Config.configFile? s o.searchDirectory))).map
    (·.complete s o.overrides o.searchDirectory)

/-- The known problems that parameters name. -/
def known (p : Config.Parameters) (s : Files.FileSystem) : Except RunError (List Suppression) :=
  match p.suppressPath with
  | none => .ok []
  | some path => Suppression.load s path

/-- The problems that are left when the known ones are left out. -/
def remaining (l : Linter) (p : Config.Parameters) (entries : List Suppression) (s : Files.FileSystem) : ProblemTable :=
  Suppression.apply entries (l.problems ⟨p, p.target, s⟩)

/-- The directory that the resources of notifications are in. -/
def diagnosticsRoot (target : String) (s : Files.FileSystem) : String :=
  (Files.Path.absolute? s.currentPath target).getD target

/-- The octets of the report for the terminal. -/
def reportOctets (color : Bool) (o : Options) (target : String) (s : Files.FileSystem) (found : ProblemTable) :
    ByteArray :=
  if o.diagnostics then (Report.Diagnostics.render (diagnosticsRoot target s) found).toUTF8
  else (o.format.render color found).toUTF8

/-- The report for the terminal. Its octets have to be a text. -/
def reportText (color : Bool) (o : Options) (target : String) (s : Files.FileSystem) (found : ProblemTable) :
    Except RunError String :=
  let octets := reportOctets color o target s found
  match Text.Utf8.decode octets with
  | some text => .ok text
  | none => .error (.other ("invalid utf-8 sequence from index " ++ toString (Text.Utf8.validLength octets)))

/-- What is said of the problems; a report for people that has nothing to report is a success. -/
def announce (o : Options) (text : String) (found : ProblemTable) : Notice :=
  if !o.diagnostics && o.format = .human && !found.anyProblem then .success "No problems found"
  else .report text

/-- The problems in a file, if there is any: the files then, and a warning if it could not be written. -/
def leaveReport (directory : String) (s : Files.FileSystem) (found : ProblemTable) :
    Files.FileSystem × Option Notice :=
  if found.anyProblem then
    match Report.Document.write found directory s with
    | (s, .ok _) => (s, none)
    | (s, .error e) =>
      (s, some (.warning ("Could not write report to " ++ directory ++ ": " ++ (RunError.files e.message).message)))
  else (s, none)

/-- The verdict on the problems that are left. -/
def verdict (found : ProblemTable) : Verdict := if found.anyError then .failed else .passed

/-- A run that cannot load what it needs. -/
def breakOff (e : RunError) (s : Files.FileSystem) : Outcome := ⟨[.error e.message], .brokenOff, s⟩

/-- The rest of a run once all is loaded. -/
def conclude (l : Linter) (color : Bool) (o : Options) (p : Config.Parameters) (entries : List Suppression)
    (s : Files.FileSystem) : Except RunError Outcome :=
  let found := l.remaining p entries s
  match reportText color o p.target s found with
  | .error e => .error e
  | .ok text =>
    match leaveReport p.output s found with
    | (s, complaint) => .ok ⟨announce o text found :: complaint.toList, verdict found, s⟩

/-- A run. It answers only to errors that end a run, and of the known problems only to those
that their file is at fault for; any other error is passed on. -/
def execute (l : Linter) (color : Bool) (o : Options) (s : Files.FileSystem) : Except RunError Outcome :=
  match parameters o s with
  | .error e => if e.endsRun then .ok (breakOff e s) else .error e
  | .ok p =>
    match known p s with
    | .error (.suppressions path m) => .ok (breakOff (.suppressions path m) s)
    | .error e => .error e
    | .ok entries => l.conclude color o p entries s

/-- A run to its end: an error that was passed on breaks it off as well. -/
def run (l : Linter) (color : Bool) (o : Options) (s : Files.FileSystem) : Outcome :=
  match l.execute color o s with
  | .ok r => r
  | .error e => ⟨[.error ("Error: " ++ e.message)], .brokenOff, s⟩

end Linter

end DatasetLint
