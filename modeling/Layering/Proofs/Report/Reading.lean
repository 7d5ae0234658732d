import Layering.Proofs.Json.Reading
import Layering.Report.Rendering

/-! What is read back from a report in JSON. Texts and paths come back as they are; a report is lost only if one of its
numbers takes more than 64 bits, in which case reading fails. -/
namespace Layering

@[simp] theorem Json.size?_nat (value : Nat) :
    (Json.nat value).size? = if value < UInt64.size then some value else none := by
  simp [Json.size?, Json.nat?, Option.filter]

theorem Severity.ofJson?_text (severity : Severity) : ofJson? (.string severity.text) = some severity := by
  cases severity <;> rfl

namespace Location

/-- Line and column are machine words. -/
def Fits (l : Location) : Prop := l.line < UInt64.size ∧ l.column < UInt64.size

theorem plain_toJson (l : Location) : l.toJson.Plain := by
  refine .object fun member listed => ?_
  simp only [List.mem_cons, List.not_mem_nil, or_false] at listed
  rcases listed with rfl | rfl | rfl
  · exact .string _
  · exact .nat _
  · exact .nat _

theorem ofJson?_toJson (l : Location) : ofJson? l.toJson = some l ↔ l.Fits := by
  have fields : l.toJson.fields? ["file", "line", "column"] [] =
      some [some (.string l.file.text), some (.nat l.line), some (.nat l.column)] := rfl
  simp only [ofJson?, fields, Json.text?, Json.size?_nat, Fits]
  by_cases line : l.line < UInt64.size <;> by_cases column : l.column < UInt64.size <;> simp [line, column]

end Location

namespace Violation

theorem plain_toJson (v : Violation) : v.toJson.Plain := by
  refine .object fun member listed => ?_
  rcases List.mem_append.mp listed with always | sometimes
  · simp only [List.mem_cons, List.not_mem_nil, or_false] at always
    rcases always with rfl | rfl | rfl | rfl | rfl
    · exact .string _
    · exact .string _
    · exact .string _
    · exact v.location.plain_toJson
    · exact .string _
  · cases advice : v.suggestion with
    | none => simp [advice] at sometimes
    | some message =>
      obtain rfl : member = ("suggestion", .object [("message", .string message)]) := by
        simpa [advice] using sometimes
      refine .object fun member listed => ?_
      obtain rfl := List.mem_singleton.mp listed
      exact .string message

/-- A suggestion that is left out is read as none. -/
theorem fields?_toJson (v : Violation) :
    ∃ suggestion, v.toJson.fields? ["code", "rule", "severity", "location", "message"] ["suggestion"] =
        some [some (.string v.code), some (.string v.rule), some (.string v.severity.text), some v.location.toJson,
          some (.string v.message), suggestion] ∧
      optionalSuggestion? suggestion = some v.suggestion := by
  obtain ⟨code, rule, severity, location, message, suggestion⟩ := v
  cases suggestion with
  | none => exact ⟨none, rfl, rfl⟩
  | some message => exact ⟨some (.object [("message", .string message)]), rfl, rfl⟩

theorem ofJson?_toJson (v : Violation) : ofJson? v.toJson = some v ↔ v.location.Fits := by
  obtain ⟨suggestion, fields, advice⟩ := v.fields?_toJson
  rw [← v.location.ofJson?_toJson]
  simp only [ofJson?, fields, Json.text?, Severity.ofJson?_text, advice]
  cases read : Location.ofJson? v.location.toJson with
  | none => simp
  | some location =>
    obtain ⟨code, rule, severity, place, message, suggestion⟩ := v
    simp

end Violation

namespace Report

/-- Every number of the report is a machine word. -/
structure Fits (r : Report) : Prop where
  places : ∀ v ∈ r.violations, v.location.Fits
  files : r.filesChecked < UInt64.size
  edges : r.edgesChecked < UInt64.size

theorem plain_toJson (r : Report) : r.toJson.Plain := by
  refine .object fun member listed => ?_
  simp only [List.mem_cons, List.not_mem_nil, or_false] at listed
  rcases listed with rfl | rfl | rfl
  · refine .array fun item listed => ?_
    obtain ⟨v, -, rfl⟩ := List.mem_map.mp listed
    exact v.plain_toJson
  · exact .nat _
  · exact .nat _

theorem list?_toJson (violations : List Violation) :
    (Json.array (violations.map Violation.toJson)).list? Violation.ofJson? = some violations ↔
      ∀ v ∈ violations, v.location.Fits := by
  simp only [Json.list?, Json.items?, Option.bind_some, ← Violation.ofJson?_toJson]
  induction violations with
  | nil => simp
  | cons v violations ih =>
    rw [List.map_cons, List.mapM_cons, List.forall_mem_cons, ← ih]
    cases Violation.ofJson? v.toJson <;>
      cases (violations.map Violation.toJson).mapM Violation.ofJson? <;> simp

theorem ofJson?_toJson (r : Report) : ofJson? r.toJson = some r ↔ r.Fits := by
  have fields : r.toJson.fields? ["violations", "files_checked", "edges_checked"] [] =
      some [some (.array (r.violations.map Violation.toJson)), some (.nat r.filesChecked),
        some (.nat r.edgesChecked)] := rfl
  have parts : r.Fits ↔ (∀ v ∈ r.violations, v.location.Fits) ∧ r.filesChecked < UInt64.size ∧
      r.edgesChecked < UInt64.size := ⟨fun fits => ⟨fits.places, fits.files, fits.edges⟩, fun ⟨p, f, e⟩ => ⟨p, f, e⟩⟩
  rw [parts, ← list?_toJson]
  simp only [ofJson?, fields, Json.size?_nat]
  obtain ⟨violations, filesChecked, edgesChecked⟩ := r
  cases (Json.array (violations.map Violation.toJson)).list? Violation.ofJson? <;>
    by_cases files : filesChecked < UInt64.size <;> by_cases edges : edgesChecked < UInt64.size <;>
    simp [files, edges]

/-- A report in JSON is read back as it was, unless one of its numbers is too large. -/
theorem json_read_back (colored : Bool) (r : Report) :
    (Json.read? (r.render colored .json)).bind ofJson? = some r ↔ r.Fits := by
  have read : Json.read? (r.render colored .json) = some r.toJson :=
    Json.read?_pretty r.plain_toJson (by simp [Json.isBlank])
  rw [read, Option.bind_some, ofJson?_toJson]

end Report

end Layering
