import TreeSchema.Files.FilePath
import TreeSchema.Violation

/-!
# Reports

The outcome of each document of a run, as text or as JSON.
-/

namespace TreeSchema

structure DocumentReport where
  document : FilePath
  outcome : Outcome

namespace DocumentReport

/-- One line for a valid document; for another one, its violations below it. -/
def text (report : DocumentReport) : String :=
  if report.outcome.isValid then s!"OK:   {report.document.text}\n"
  else
    let count := report.outcome.violations.length
    s!"FAIL: {report.document.text} ({count} violation(s))\n{report.outcome.text}\n"

def textOf (reports : List DocumentReport) : String :=
  let passed := reports.countP (·.outcome.isValid)
  String.join (reports.map text) ++ s!"\nDocuments: {passed}/{reports.length} passed\n"

def layoutOfViolation (v : Violation) : Json.Layout :=
  .record [("path", .leaf (.string v.location.text)), ("kind", .leaf (.string v.kind.name)),
    ("message", .leaf (.string v.message))]

def layout (report : DocumentReport) : Json.Layout :=
  .record [("document", .leaf (.string report.document.text)),
    ("valid", .leaf (.bool report.outcome.isValid)),
    ("errors", .list (report.outcome.violations.map layoutOfViolation))]

def layoutOf (reports : List DocumentReport) : Json.Layout := .list (reports.map layout)

end DocumentReport

end TreeSchema
