/-! How grave a finding is. -/
namespace Layering

/-- The grades of findings, from the least to the most grave. -/
inductive Severity where
  | info
  | warning
  | error
  deriving Repr, DecidableEq, Inhabited

namespace Severity

def text : Severity → String
  | info => "info"
  | warning => "warning"
  | error => "error"

def rank : Severity → Nat
  | info => 0
  | warning => 1
  | error => 2

def all : List Severity := [info, warning, error]

/-- The severity with exactly the given name. -/
def ofText? (text : String) : Option Severity := all.find? fun severity => severity.text = text

/-- A severity as a user may write it: the case of letters does not matter, and a warning may be short. -/
def parse? (text : String) : Option Severity :=
  let lower : String := .ofList (text.toList.map Char.toLower)
  if lower = "warn" then some warning else ofText? lower

end Severity

end Layering
