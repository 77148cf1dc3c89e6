import XmlSchema.Json.Printer
import XmlSchema.Json.Record
import XmlSchema.Path
import XmlSchema.Report
import XmlSchema.Text.Number

/-!
# Reports in JSON

Reports are exchanged as JSON.  The names of the members, `Recommentations` among them, are part of
the format.
-/

namespace XmlSchema

namespace Severity

/-- The names of the severities in JSON. -/
def names : List (String × Severity) := [("Error", .error), ("Warning", .warning)]

/-- A severity in JSON. -/
def toJson : Severity → Json
  | .error => .string "Error"
  | .warning => .string "Warning"

end Severity

namespace Issue

/-- An issue in JSON. -/
def toJson (i : Issue) : Json :=
  .object [("Severity", i.severity.toJson), ("Message", .string i.message),
    ("LineNumber", .nat i.line.toNat), ("LinePosition", .nat i.column.toNat)]

/-- Reads an issue. -/
def ofJson? (j : Json) : Option Issue := do
  match ← j.fields? ["Severity", "Message", "LineNumber", "LinePosition"] with
  | [severity, message, line, column] =>
    let severity ← Json.required? (Json.variant? Severity.names) severity
    let message ← Json.required? Json.string? message
    let line ← Json.required? (Json.natUpTo? Text.maxWord32) line
    let column ← Json.required? (Json.natUpTo? Text.maxWord32) column
    return ⟨severity, message, line.toUInt32, column.toUInt32⟩
  | _ => none

end Issue

namespace Report

/-- The members of a report in JSON. -/
def members (r : Report) : List (String × Json) :=
  [("Errors", .array (r.issues.map Issue.toJson)),
    ("Recommentations", .strings r.recommendations)]

/-- A report in JSON. -/
def toJson (r : Report) : Json := .object r.members

/-- The report on the document at a path in JSON. -/
def entryJson (path : Path) (r : Report) : Json := .object (("Path", .string path.text) :: r.members)

/-- Reads a report. -/
def ofJson? (j : Json) : Option Report := do
  match ← j.fields? ["Errors", "Recommentations"] with
  | [issues, recommendations] =>
    let issues ← Json.required? (fun j => j.items?.bind (·.mapM Issue.ofJson?)) issues
    let recommendations ← Json.withDefault? Json.strings? [] recommendations
    return ⟨issues, recommendations⟩
  | _ => none

end Report

end XmlSchema
