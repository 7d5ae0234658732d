import Layering.Order
import Layering.Violation

/-! The result of a run. -/
namespace Layering

/-- All findings of a run, and how much was looked at. -/
structure Report where
  violations : List Violation := []
  filesChecked : Nat := 0
  /-- The number of imports. -/
  edgesChecked : Nat := 0
  deriving Repr, DecidableEq, Inhabited

namespace Report

def hasViolations (r : Report) : Bool := !r.violations.isEmpty

/-- Whether there is a finding at least as grave as the given severity. -/
def hasViolationsAt (r : Report) (severity : Severity) : Bool :=
  r.violations.any fun v => severity.rank ≤ v.severity.rank

def hasErrors (r : Report) : Bool := r.violations.any fun v => v.severity = .error

/-- The number of findings of a severity. -/
def count (r : Report) (severity : Severity) : Nat :=
  (r.violations.filter fun v => v.severity = severity).length

/-- The report with its findings in order, each once. -/
def sorted (r : Report) : Report :=
  { r with violations := dropRepeats Violation.same (sortBy Violation.compare r.violations) }

/-- The report with more findings at its end. -/
def add (r : Report) (violations : List Violation) : Report :=
  { r with violations := r.violations ++ violations }

end Report

end Layering
