import DatasetLint.Report.Style
import DatasetLint.Run

/-!
# Notices on a terminal

The report stands as it is; other notices are lines with a mark, of which warnings and errors go to the
error output.
-/

namespace DatasetLint

namespace Notice

/-- Whether a notice goes to the error output. -/
def isComplaint : Notice → Bool
  | warning _ | error _ => true
  | _ => false

/-- A notice as it is written. -/
def render (color : Bool) (n : Notice) : String :=
  let line (style : Report.Style) (mark text : String) : String :=
    (if color then style else .plain).apply (mark ++ " " ++ text) ++ "\n"
  match n with
  | .report t => t
  | .success t => line .green "✓" t
  | .warning t => line .orange "⚠" t
  | .error t => line .red "✗" t

end Notice

namespace Outcome

/-- What a run writes to the output. -/
def output (color : Bool) (o : Outcome) : String :=
  String.join ((o.notices.filter (!·.isComplaint)).map (·.render color))

/-- What a run writes to the error output. -/
def complaints (color : Bool) (o : Outcome) : String :=
  String.join ((o.notices.filter (·.isComplaint)).map (·.render color))

end Outcome

end DatasetLint
