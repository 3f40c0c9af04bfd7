import DatasetLint.Check

/-!
# Stages

What runs before the checks. The only stage of its own looks whether the resource of every
generation rule is there.
-/

namespace DatasetLint

/-- A stage: what it finds, and why it failed if it did. -/
structure Stage where
  name : String
  run : Context → List Finding × Option RunError

namespace Stage

/-- What a stage adds to the problems: what it finds, and that it failed. -/
def share (g : Stage) (x : Context) : List Finding :=
  let (fs, e) := g.run x
  fs ++ e.toList.map fun e => ⟨runnerResource, .error, g.name ++ ": " ++ e.message⟩

/-- The problems with those that some stages add, one stage after the other. -/
def runAll (gs : List Stage) (x : Context) (s : ProblemTable) : ProblemTable :=
  gs.foldl (fun s g => s.record (g.share x)) s

/-- What is wrong with the target of a rule. -/
def ruleFinding? (x : Context) (r : Config.Recipe) : Option Finding :=
  if r.target.isEmpty then some ⟨runnerResource, .error, "generation: rule without target"⟩
  else if x.files.isFile (Files.Path.join x.target r.target) then none
  else some ⟨r.target, .error, "generation: target not found"⟩

/-- The targets of all rules must be there. -/
def targets : Stage := ⟨"generation", fun x => (x.parameters.rules.filterMap (ruleFinding? x), none)⟩

end Stage

end DatasetLint
