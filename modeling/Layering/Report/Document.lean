import Layering.Json.Value
import Layering.Report.Basic

/-! Reports as JSON. Reading accepts members in any order and ignores unknown ones; instead of an object with members
it accepts an array with their values in order, where optional values at the end may be left out. -/
namespace Layering

/-- The members of a structure by name, from an object or from an array of their values. Of members with one name in an
object the last one counts, as in a value that has been read before; a reader of texts may refuse them. -/
def Json.fields? (required optional : List String) : Json → Option (List (Option Json))
  | .object members => some ((required ++ optional).map fun name => Json.get? name (.object members))
  | .array items =>
    let missing := required.length + optional.length - items.length
    if required.length ≤ items.length ∧ items.length ≤ required.length + optional.length then
      some (items.map some ++ List.replicate missing none)
    else none
  | _ => none

/-- A natural number that fits into 64 bits. -/
def Json.size? (value : Json) : Option Nat := value.nat?.filter (· < UInt64.size)

/-- The values of an array, each read by the given function. -/
def Json.list? (read : Json → Option α) (value : Json) : Option (List α) := value.items?.bind (·.mapM read)

/-- A severity by name, or as an object whose only member has that name and no value. -/
def Severity.ofJson? : Json → Option Severity
  | .string text => ofText? text
  | .object ((name, value) :: members) =>
    match Json.get? name (.object ((name, value) :: members)) with
    | some .null => if members.all (·.1 = name) then ofText? name else none
    | _ => none
  | _ => none

namespace Location

def toJson (l : Location) : Json :=
  .object [("file", .string l.file.text), ("line", .nat l.line), ("column", .nat l.column)]

def ofJson? (value : Json) : Option Location :=
  match value.fields? ["file", "line", "column"] [] with
  | some [some file, some line, some column] => do
    return { file := ⟨← file.text?⟩, line := ← line.size?, column := ← column.size? }
  | _ => none

end Location

namespace Violation

/-- A finding as an object. The suggestion is left out if there is none. -/
def toJson (v : Violation) : Json :=
  let suggestion :=
    match v.suggestion with
    | some message => [("suggestion", Json.object [("message", .string message)])]
    | none => []
  .object ([("code", .string v.code), ("rule", .string v.rule), ("severity", .string v.severity.text),
    ("location", v.location.toJson), ("message", .string v.message)] ++ suggestion)

/-- The message of a suggestion. -/
def suggestionOfJson? (value : Json) : Option String :=
  match value.fields? ["message"] [] with
  | some [some message] => message.text?
  | _ => none

/-- The suggestion of a finding, which may be absent or null. -/
def optionalSuggestion? : Option Json → Option (Option String)
  | none | some .null => some none
  | some value => (suggestionOfJson? value).map some

def ofJson? (value : Json) : Option Violation :=
  match value.fields? ["code", "rule", "severity", "location", "message"] ["suggestion"] with
  | some [some code, some rule, some severity, some location, some message, suggestion] => do
    return {
      code := ← code.text?
      rule := ← rule.text?
      severity := ← Severity.ofJson? severity
      location := ← Location.ofJson? location
      message := ← message.text?
      suggestion := ← optionalSuggestion? suggestion }
  | _ => none

end Violation

namespace Report

def toJson (r : Report) : Json :=
  .object [("violations", .array (r.violations.map Violation.toJson)), ("files_checked", .nat r.filesChecked),
    ("edges_checked", .nat r.edgesChecked)]

def ofJson? (value : Json) : Option Report :=
  match value.fields? ["violations", "files_checked", "edges_checked"] [] with
  | some [some violations, some filesChecked, some edgesChecked] => do
    return {
      violations := ← violations.list? Violation.ofJson?
      filesChecked := ← filesChecked.size?
      edgesChecked := ← edgesChecked.size? }
  | _ => none

end Report

end Layering
