import Layering.Path
import Layering.Rule
import Layering.Severity

/-! Findings and their order in a report. -/
namespace Layering

/-- The place of a finding. Line zero stands for the path as a whole. -/
structure Location where
  file : Path
  line : Nat
  column : Nat
  deriving Repr, DecidableEq, Inhabited

namespace Location

/-- A path as a whole. -/
def whole (file : String) : Location := ⟨⟨file⟩, 0, 0⟩

/-- Whether two places are the same. -/
def same (a b : Location) : Bool := a.file.same b.file && a.line = b.line && a.column = b.column

def display (l : Location) : String :=
  if l.line = 0 then l.file.display
  else l.file.display ++ ":" ++ toString l.line ++ ":" ++ toString l.column

end Location

/-- A finding. -/
structure Violation where
  /-- The code of the rule. -/
  code : String
  /-- The name of the rule. -/
  rule : String
  severity : Severity
  location : Location
  message : String
  /-- What to do about it. -/
  suggestion : Option String
  deriving Repr, DecidableEq, Inhabited

/-- A finding of a rule. -/
def Rule.violation (rule : Rule) (severity : Severity) (location : Location) (message : String)
    (suggestion : Option String) : Violation :=
  { code := rule.code, rule := rule.name, severity, location, message, suggestion }

namespace Violation

/-- Whether two findings are the same. -/
def same (a b : Violation) : Bool :=
  a.code = b.code && a.rule = b.rule && a.severity = b.severity && a.location.same b.location
    && a.message = b.message && a.suggestion = b.suggestion

/-- The order of findings in a report: by file, code, place, message and severity. -/
protected def compare (a b : Violation) : Ordering :=
  (a.location.file.compare b.location.file).then <|
  (compare a.code b.code).then <|
  (compare a.location.line b.location.line).then <|
  (compare a.location.column b.location.column).then <|
  (compare a.message b.message).then <|
  compare a.severity.rank b.severity.rank

/-- A finding on one line. -/
def display (v : Violation) : String :=
  v.location.display ++ ": " ++ v.severity.text ++ " [" ++ v.code ++ "] " ++ v.message

end Violation

end Layering
