import PythonStyle.Checking.Files
import PythonStyle.CommandLine.Arguments
import PythonStyle.Discovery
import PythonStyle.Report.Output
import PythonStyle.Text.Quoted

/-!
# Running a check

Main definitions:

- `run`: what the program does for given options.
-/

namespace PythonStyle

/-- What the program says about its version. -/
def versionText : String := asLine ("pystylecheck " ++ programVersion)

/-- What the program does: its exit code, what it writes, and what happened. -/
structure Outcome where
  exitCode : Nat
  stdout : String
  stderr : String
  events : List Event
  deriving Inhabited

/-- The exit code when every file could be read. -/
def exitSuccess : Nat := 0

/-- The exit code when some file could not be read. -/
def exitFailure : Nat := 2

/-- A report on a path in the form that was asked for. -/
def CheckReport.inFormat (r : CheckReport) (path : Path) : Format → String
  | .text => r.toText
  | .json => r.toJson path.label

/-- What the program does when there is nothing to be found at a path. -/
def inaccessible (path : Path) (error : DiscoveryError) : Outcome where
  exitCode := exitFailure
  stdout := ""
  stderr :=
    asLine ("Error: cannot access path " ++ Text.Quoted.encode path.bytes ++ ": " ++ error.message)
  events := []

/-- What the program does for given options.  Diagnostics do not make it fail; files
that cannot be read do. -/
def run (parser : Parser) (fs : FileSystem) (options : Options) : Outcome :=
  match discover fs options.path with
  | .error error => inaccessible options.path error
  | .ok found =>
    let idle := if found.files.isEmpty then [Event.nothingToCheck options.path.label] else []
    let (report, events) := checkFiles parser fs.read found.files
    { exitCode := if report.hasFailures then exitFailure else exitSuccess
      stdout := report.inFormat options.path options.format
      stderr := report.failureLines
      events := found.events ++ idle ++ events }

end PythonStyle
