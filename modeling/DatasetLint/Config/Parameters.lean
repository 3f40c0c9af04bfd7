import DatasetLint.Config.Node

/-!
# Parameters of a run

What the configuration file says: where things are, which resources have to be generated, and one
section of settings for each check. All of it may be left out.
-/

namespace DatasetLint.Config

open Yaml

/-- How a resource is generated. -/
structure Recipe where
  query : Option String
  template : Option String
  /-- The generated resource, relative to the target directory. -/
  target : String
deriving DecidableEq, Repr

structure Parameters where
  baseUri : Option String
  /-- The directory that holds the resources to check. -/
  targetDir : Option String
  /-- The directory that the report is written to. -/
  outputDir : Option String
  /-- The directory that holds an earlier version of the resources. -/
  originDir : Option String
  /-- The file that tells which problems are known. -/
  suppressPath : Option String
  rules : List Recipe
  /-- The settings of each check by its name. -/
  validation : Node
deriving Repr

namespace Recipe

def default : Recipe := ⟨none, none, ""⟩

instance : Inhabited Recipe := ⟨default⟩

/-- A rule in a document; keys without meaning are passed over. -/
def reader : Reader Recipe :=
  .record "GenerationRule" false [
    .ofReader "query" false (.option (.text "a string")) fun a r => { r with query := a },
    .ofReader "template" false (.option (.text "a string")) fun a r => { r with template := a },
    .ofReader "target" false (.text "a string") fun a r => { r with target := a }] default

end Recipe

namespace Parameters

def default : Parameters := ⟨none, none, none, none, none, [], .null⟩

instance : Inhabited Parameters := ⟨default⟩

/-- The settings of a check, if there are any. -/
def section? (p : Parameters) (check : String) : Option Node := p.validation.get? check

/-- The target directory, or else the current one. -/
def target (p : Parameters) : String := p.targetDir.getD "."

/-- The output directory, or else the target directory. -/
def output (p : Parameters) : String := p.outputDir.getD p.target

/-- Parameters in a document; every key must have a meaning. -/
def reader : Reader Parameters :=
  let path : Reader (Option String) := .option (.text "path string")
  .record "LintParameters" true [
    .ofReader "baseUri" false (.option (.text "a string")) fun a p => { p with baseUri := a },
    .ofReader "targetDir" false path fun a p => { p with targetDir := a },
    .ofReader "outputDir" false path fun a p => { p with outputDir := a },
    .ofReader "originDir" false path fun a p => { p with originDir := a },
    .ofReader "suppressPath" false path fun a p => { p with suppressPath := a },
    .ofReader "rules" false (.list Recipe.reader) fun a p => { p with rules := a },
    .ofReader "validation" false Node.reader fun a p => { p with validation := a }] default

/-- Why a text holds no parameters. -/
inductive Fault where
  | document (e : Yaml.Error)
  | sections (kind : String)
deriving DecidableEq, Repr

def Fault.message : Fault → String
  | document e => e.message
  | sections kind => "\x60validation\x60 must be a mapping of validator names, found a " ++ kind

/-- The parameters in a text. A blank text sets none, and the settings must be by name. -/
def ofText (s : String) : Except Fault Parameters :=
  if (Text.trim s.toList).isEmpty then .ok default
  else
    match readText reader s with
    | .error e => .error (.document e)
    | .ok p =>
      match p.validation with
      | .mapping _ | .null => .ok p
      | x => .error (.sections x.kind)

end Parameters

end DatasetLint.Config
