import PythonStyle.Diagnostic

/-!
# Check reports

The result of a check of several files.
-/

namespace PythonStyle

/-- A file that was not checked, and why. -/
structure FileFailure where
  file : String
  message : String
  deriving DecidableEq, Repr, Inhabited

/-- The result of a check of several files. -/
structure CheckReport where
  diagnostics : List Diagnostic
  /-- The files that could not be read. -/
  failures : List FileFailure
  /-- The number of files that were to be checked. -/
  scanned : Nat
  /-- The number of files that were read but are no programs. -/
  parseFailures : Nat
  deriving DecidableEq, Repr, Inhabited

/-- Whether some file could not be read. -/
def CheckReport.hasFailures (r : CheckReport) : Bool := !r.failures.isEmpty

end PythonStyle
