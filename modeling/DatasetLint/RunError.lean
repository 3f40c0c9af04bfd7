import DatasetLint.Binding.NodePath

/-!
# What can go wrong in a run

A fault of one check becomes a problem and the run goes on; any other ends it.
-/

namespace DatasetLint

inductive RunError where
  | configNotFound (path : String)
  | config (path message : String)
  | suppressions (path message : String)
  /-- The settings of a check do not fit. -/
  | binding (check : String) (e : Binding.BindFault)
  /-- A check failed. -/
  | execution (check message : String)
  | files (message : String)
  | other (message : String)
deriving DecidableEq, Repr

namespace RunError

def message : RunError → String
  | configNotFound p => "Configuration not found: " ++ p
  | config p m => "Failed to parse config at " ++ p ++ ": " ++ m
  | suppressions p m => "Failed to parse suppressions at " ++ p ++ ": " ++ m
  | binding v e => "Invalid configuration for validator '" ++ v ++ "': " ++ e.message
  | execution v m => "Validator '" ++ v ++ "' failed: " ++ m
  | files m => "IO error: " ++ m
  | other m => m

/-- Whether the error ends the run. -/
def endsRun : RunError → Bool
  | binding .. | execution .. => false
  | _ => true

end RunError

end DatasetLint
