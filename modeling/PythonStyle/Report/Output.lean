import PythonStyle.Checking.Report
import PythonStyle.Report.Json

/-!
# Report output

A report is shown as text, one line for each diagnostic, or as a JSON object.  The
files that could not be read are shown apart from both.

Main definitions:

- `CheckReport.toText`, `CheckReport.toJson`: the two forms of a report.
- `CheckReport.failureLines`: the files that could not be read.
-/

namespace PythonStyle

/-- The version of the program. -/
def programVersion : String := "0.1.0"

/-- A text as a line. -/
def asLine (text : String) : String := text ++ "\n"

namespace CheckReport

/-- The lines that show the diagnostics. -/
def lines (r : CheckReport) : List String := r.diagnostics.map Diagnostic.render

/-- The report as text. -/
def toText (r : CheckReport) : String :=
  String.join (r.lines.map asLine)

/-- A diagnostic as a JSON object. -/
def diagnosticValue (d : Diagnostic) : Json :=
  .object [("file", .text d.file), ("line", .number d.line), ("code", .text d.code.text),
    ("message", .text d.message)]

/-- A failure as a JSON object. -/
def failureValue (f : FileFailure) : Json :=
  .object [("file", .text f.file), ("message", .text f.message)]

/-- A report on a path as a JSON object. -/
def toValue (r : CheckReport) (path : String) : Json :=
  .object [("version", .text programVersion), ("path", .text path),
    ("files_scanned", .number r.scanned), ("parse_failures", .number r.parseFailures),
    ("diagnostics", .array (r.diagnostics.map diagnosticValue)),
    ("errors", .array (r.failures.map failureValue))]

/-- The report on a path as JSON text. -/
def toJson (r : CheckReport) (path : String) : String :=
  asLine (r.toValue path).render

/-- The lines that show which files could not be read. -/
def failureLines (r : CheckReport) : String :=
  String.join (r.failures.map fun f => asLine ("error: " ++ f.message))

end CheckReport

end PythonStyle
