import Layering.Json.Printer
import Layering.Report.Document

/-! The texts in which a report is printed: grouped by file for people, with one line a finding, and as JSON. -/
namespace Layering

/-- The formats of a report. -/
inductive Format where
  | text
  | json
  | compact
  deriving Repr, DecidableEq, Inhabited

namespace Format

def name : Format → String
  | text => "text"
  | json => "json"
  | compact => "compact"

def ofName? (name : String) : Option Format := [text, json, compact].find? fun format => format.name = name

end Format

/-- How a text stands out on a terminal. -/
inductive Style where
  | red
  | yellow
  | blue
  | green
  | bold
  deriving Repr, DecidableEq

namespace Style

/-- The sequence that starts a style. -/
def start : Style → String
  | red => "\x1b[31m"
  | yellow => "\x1b[33m"
  | blue => "\x1b[34m"
  | green => "\x1b[32m"
  | bold => "\x1b[1m"

/-- The sequence that ends all styles. -/
def reset : String := "\x1b[0m"

/-- A text in a style, if styles are shown. -/
def paint (colored : Bool) (style : Style) (text : String) : String :=
  if colored then style.start ++ text ++ reset else text

def ofSeverity : Severity → Style
  | .error => red
  | .warning => yellow
  | .info => blue

end Style

namespace Report

/-- The findings in runs of the same file. -/
def groups : List Violation → List (List Violation)
  | [] => []
  | v :: vs =>
    match groups vs with
    | (w :: ws) :: rest =>
      if v.location.file.same w.location.file then (v :: w :: ws) :: rest else [v] :: (w :: ws) :: rest
    | rest => [v] :: rest

/-- The lines of a finding below the name of its file. -/
def findingText (colored : Bool) (v : Violation) : String :=
  let position :=
    if v.location.line = 0 then ""
    else toString v.location.line ++ ":" ++ toString v.location.column ++ " "
  let help :=
    match v.suggestion with
    | some message => "    = help: " ++ message ++ "\n"
    | none => ""
  "  " ++ position ++ Style.paint colored (.ofSeverity v.severity) v.severity.text ++ "[" ++ v.code ++ "] "
    ++ v.message ++ "\n" ++ help

/-- The findings of one file below its name. -/
def groupText (colored : Bool) (group : List Violation) : String :=
  let header :=
    match group with
    | v :: _ => Style.paint colored .bold v.location.file.display ++ "\n"
    | [] => ""
  header ++ String.join (group.map (findingText colored)) ++ "\n"

/-- The last line, without its style. -/
def summary (r : Report) : String :=
  let extent := toString r.filesChecked ++ " file(s), " ++ toString r.edgesChecked ++ " import(s)"
  if r.hasViolations then
    "Found " ++ toString (r.count .error) ++ " error(s), " ++ toString (r.count .warning) ++ " warning(s), "
      ++ toString (r.count .info) ++ " info(s) in " ++ extent
  else "No violations in " ++ extent

/-- The style of the last line. -/
def summaryStyle (r : Report) : Style :=
  if 0 < r.count .error then .red else if 0 < r.count .warning then .yellow else .green

/-- The report for people: the findings below the names of their files, and a summary. -/
def text (colored : Bool) (r : Report) : String :=
  String.join ((groups r.violations).map (groupText colored))
    ++ Style.paint colored r.summaryStyle r.summary ++ "\n"

/-- The report with one line a finding. -/
def compact (r : Report) : String := String.join (r.violations.map fun v => v.display ++ "\n")

/-- The report as JSON over several lines. -/
def json (r : Report) : String := r.toJson.pretty ++ "\n"

/-- The report in a format. Only the format for people has styles. -/
def render (colored : Bool) (r : Report) : Format → String
  | .text => r.text colored
  | .json => r.json
  | .compact => r.compact

end Report

end Layering
