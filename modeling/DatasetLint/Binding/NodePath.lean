import DatasetLint.Config.Node
import DatasetLint.Text.Quoted

/-!
# Places in a configuration section

The way from a section to a node inside it, and why the node there does not fit.
-/

namespace DatasetLint.Binding

/-- A step from a node to one inside it. -/
inductive Step where
  | key (name : String)
  | index (number : Nat)
deriving DecidableEq, Repr

/-- The steps from a section to a node, the outermost first. -/
abbrev NodePath := List Step

namespace NodePath

/-- A path behind its first step: keys follow a point and numbers are in brackets. -/
def tail : NodePath → String
  | [] => ""
  | .key k :: p => "." ++ k ++ tail p
  | .index n :: p => "[" ++ toString n ++ "]" ++ tail p

/-- A path as it is shown; the section itself has a name of its own. -/
def render : NodePath → String
  | [] => "<section>"
  | .key k :: p => k ++ tail p
  | .index n :: p => "[" ++ toString n ++ "]" ++ tail p

/-- The node that a path leads to. -/
def follow : NodePath → Config.Node → Option Config.Node
  | [], x => some x
  | .key k :: p, x => (x.get? k).bind (follow p)
  | .index n :: p, x => (x.items?.bind (·[n]?)).bind (follow p)

end NodePath

/-- Why a node does not fit. -/
inductive Misfit where
  | unknownKey
  | wrongKind (expected found : String)
  | unreadable (text expected reason : String)
deriving DecidableEq, Repr

/-- A node that does not fit, and where it is. An unknown key is part of the path. -/
structure BindFault where
  path : NodePath
  misfit : Misfit
deriving DecidableEq, Repr

namespace BindFault

def message (e : BindFault) : String :=
  let place := Text.ticked e.path.render
  match e.misfit with
  | .unknownKey => "unknown key " ++ place
  | .wrongKind expected found => place ++ " expects a " ++ expected ++ ", found a " ++ found
  | .unreadable text expected reason =>
    place ++ " cannot read " ++ Text.quoted text ++ " as " ++ expected ++ ": " ++ reason

end BindFault

end DatasetLint.Binding
