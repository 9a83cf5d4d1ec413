import PythonStyle.Acceptance
import PythonStyle.Checking.Report
import PythonStyle.FunctionRules
import PythonStyle.LineRules

/-!
# Checking files

The rules for lines apply to every text, those for functions only to programs.  A
file that cannot be read does not keep the others from being checked.  Files are read
at their paths and spoken of by the labels of these, which they may share.

Main definitions:

- `checkSource`: checks a text.
- `checkFile`: reads and checks a file.
- `checkFiles`: checks files one after another and reports on all of them.
-/

namespace PythonStyle

/-- Checks a text under a label.  If it is no program, the findings about its lines remain. -/
def checkSource (parser : Parser) (path text : String) (now : Findings) :
    Findings × Except CheckError Unit :=
  let text := Text.normalizeNewlines text.toList
  let now := now.reportAll (LineRules.checkText path text)
  let source := Source.ofText (String.ofList text)
  match accepted? parser source with
  | none => (now, .error (.unparsable path))
  | some tree => (FunctionRules.checkFacts now (fileFacts path source tree), .ok ())

/-- How the bytes of files are read. -/
abbrev Reader := Path → Except FileError (List UInt8)

/-- The text that is read at a path, or why there is none. -/
def readText (read : Reader) (path : Path) : Except CheckError String :=
  match read path with
  | .error cause => .error (.unreadable path.label cause)
  | .ok bytes =>
    match decode? bytes with
    | none => .error (.undecodable path.label)
    | some text => .ok text

/-- Reads and checks a file. -/
def checkFile (parser : Parser) (read : Reader) (path : Path) (now : Findings) :
    Findings × Except CheckError Unit :=
  let now := now.note (.fileStarted path.label)
  match readText read path with
  | .error error => (now, .error error)
  | .ok text => checkSource parser path.label text now

/-- The state of a check of several files. -/
structure Progress where
  findings : Findings
  failures : List FileFailure
  scanned : Nat
  parseFailures : Nat
  deriving Inhabited

namespace Progress

/-- The state before the first file. -/
def start : Progress := ⟨.empty, [], 0, 0⟩

/-- Records how the check of the file with a given label ended. -/
def record (p : Progress) (label : String) : Except CheckError Unit → Progress
  | .ok () => p
  | .error (.unparsable file) =>
    { p with
      findings := p.findings.note (.functionsSkipped file)
      parseFailures := p.parseFailures + 1 }
  | .error error =>
    { p with
      findings := p.findings.note (.fileFailed error)
      failures := p.failures ++ [⟨label, error.message⟩] }

/-- Checks one more file. -/
def step (parser : Parser) (read : Reader) (p : Progress) (path : Path) : Progress :=
  let (findings, result) := checkFile parser read path p.findings
  { p with findings, scanned := p.scanned + 1 }.record path.label result

/-- The report on the files checked. -/
def report (p : Progress) : CheckReport where
  diagnostics := Diagnostic.sort p.findings.diagnostics.toList
  failures := p.failures
  scanned := p.scanned
  parseFailures := p.parseFailures

end Progress

/-- Checks files in order.  Gives the report and what happened. -/
def checkFiles (parser : Parser) (read : Reader) (files : List Path) :
    CheckReport × List Event :=
  let p := files.foldl (Progress.step parser read) .start
  let report := p.report
  (report, p.findings.events.toList ++ [.finished report.scanned report.diagnostics.length])

end PythonStyle
