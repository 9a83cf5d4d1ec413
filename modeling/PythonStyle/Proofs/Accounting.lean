import PythonStyle.CommandLine.Run
import PythonStyle.Proofs.Batches
import PythonStyle.Proofs.ByteOrder
import PythonStyle.Proofs.Isolation

/-!
# The accounts of a run

Every file that is found is checked to the end, is no program, or cannot be read, and each
of the three shows elsewhere: only in the diagnostics, as a count, or as a failure.  What a
run writes and how it exits follow from this division and from nothing else.

Main definitions:

- `isChecked`, `isUnparsed` and `unread?`: the three ways in which the check of a file ends.
- `Accounts`: what the report of a run says about the files that were found.

Main results:

- Theorem `failure?_eq_unread?`: the failures are the files that cannot be read.
- Theorem `countP_add_countP_add_length`: the three ways count all files.
- Theorem `accounts_checkFiles`: a check of several files keeps the accounts.
- Theorem `run_accounts`: a run shows the accounts of the files that it finds.
-/

namespace PythonStyle

/-! ## How the check of a file ends -/

/-- The diagnostics of a file that is checked on its own. -/
def fileBlock (parser : Parser) (read : Reader) (path : Path) : List Diagnostic :=
  (checkFile parser read path .empty).1.diagnostics.toList

/-- Whether all rules were applied to a file. -/
def isChecked (parser : Parser) (read : Reader) (path : Path) : Bool :=
  (checkFile parser read path .empty).2.isOk

/-- What is to be said about a file whose text is not known, if it is not. -/
def unread? (read : Reader) (path : Path) : Option FileFailure :=
  match readText read path with
  | .error error => some ⟨path.label, error.message⟩
  | .ok _ => none

section Files

variable (parser : Parser) (read : Reader) (path : Path)

theorem fileBlock_eq_fileFindings :
    fileBlock parser read path = fileFindings parser read path := by
  rw [fileBlock, diagnostics_checkFile, Findings.diagnostics_empty, List.nil_append]
  rfl

/-- The failures are the files that cannot be read. -/
theorem failure?_eq_unread? : failure? parser read path = unread? read path := by
  rw [failure?, unread?]
  cases htext : readText read path with
  | error error =>
      cases error with
      | unparsable file => exact absurd htext (Call.text_ne_unparsable (.file read path) file)
      | unreadable file cause => rfl
      | undecodable file => rfl
  | ok text =>
      simp only [outcome]
      cases accepted? parser (normalizedSource text) <;> rfl

/-- A file that cannot be read has no diagnostics. -/
theorem fileBlock_of_unread {error : CheckError} (h : readText read path = .error error) :
    fileBlock parser read path = [] := by
  rw [fileBlock_eq_fileFindings, fileFindings, h]
  rfl

/-- The check of a file ends in one of three ways. -/
theorem ways_to_end :
    (if isChecked parser read path then 1 else 0) +
        (if isUnparsed parser read path then 1 else 0) +
        (unread? read path).toList.length = 1 := by
  rw [← failure?_eq_unread? parser, isChecked, checkFile_snd, isUnparsed, failure?]
  rcases outcome parser path.label (readText read path) with (_ | _ | _) | _ <;> rfl

end Files

/-! ## Reports -/

section Reports

variable (parser : Parser) (read : Reader) (files : List Path)

/-- The three ways to end count all files. -/
theorem countP_add_countP_add_length :
    files.countP (isChecked parser read) + files.countP (isUnparsed parser read) +
        (files.filterMap (unread? read)).length = files.length := by
  induction files with
  | nil => rfl
  | cons path files ih =>
      have hpath := ways_to_end parser read path
      have hlength : ((path :: files).filterMap (unread? read)).length =
          (unread? read path).toList.length + (files.filterMap (unread? read)).length := by
        cases h : unread? read path with
        | none => simp [h]
        | some failure =>
            simp [h]
            omega
      rw [List.countP_cons, List.countP_cons, hlength, List.length_cons]
      omega

/-- What the report on files says about them. -/
structure Accounts (report : CheckReport) : Prop where
  /-- All files are counted. -/
  scanned : report.scanned = files.length
  /-- Each file is checked, no program or a failure. -/
  balance : report.scanned =
    files.countP (isChecked parser read) + report.parseFailures + report.failures.length
  /-- The files that could be read but are no programs are counted. -/
  parseFailures : report.parseFailures =
    files.countP fun path => isUnparsedResult (checkFile parser read path .empty).2
  /-- The failures are the files that cannot be read, in order, each with its reason. -/
  failures : report.failures = files.filterMap (unread? read)
  /-- The diagnostics of all files are sorted. -/
  diagnostics : Diagnostic.IsStableSort report.diagnostics
    (files.flatMap (fileBlock parser read))
  /-- Files that cannot be read have no part in the diagnostics. -/
  silent : ∀ path error, readText read path = .error error → fileBlock parser read path = []

/-- A check of several files keeps the accounts. -/
theorem accounts_checkFiles : Accounts parser read files (checkFiles parser read files).1 where
  scanned := scanned_report parser read files
  balance := by
    have hfailures : files.filterMap (failure? parser read) = files.filterMap (unread? read) :=
      List.filterMap_congr fun path _ => failure?_eq_unread? parser read path
    rw [scanned_report, parseFailures_report, failures_report, hfailures]
    exact (countP_add_countP_add_length parser read files).symm
  parseFailures := by
    rw [parseFailures_report]
    simp only [checkFile_snd]
    rfl
  failures := by
    rw [failures_report]
    exact List.filterMap_congr fun path _ => failure?_eq_unread? parser read path
  diagnostics := by
    have hblocks : fileBlock parser read = fileFindings parser read :=
      funext (fileBlock_eq_fileFindings parser read)
    rw [diagnostics_report, hblocks]
    exact Diagnostic.isStableSort_sort _
  silent := fun path _ h => fileBlock_of_unread parser read path h

end Reports

/-! ## Runs -/

/-- A run that finds no files fails and writes no report.  Any other run writes the report
of the files that it finds, and one line of error for each failure; it fails if there are
failures, whatever the diagnostics and the texts that are no programs. -/
theorem run_accounts (parser : Parser) (fs : FileSystem) (options : Options) :
    match discover fs options.path with
    | .error _ =>
      (run parser fs options).exitCode = 2 ∧ (run parser fs options).stdout = ""
    | .ok found =>
      ∃ report : CheckReport, Accounts parser fs.read found.files report ∧
        (run parser fs options).stdout = report.inFormat options.path options.format ∧
        (run parser fs options).stderr =
          String.join (report.failures.map fun f => "error: " ++ f.message ++ "\n") ∧
        (run parser fs options).exitCode = if report.failures = [] then 0 else 2 := by
  cases hfound : discover fs options.path with
  | error error =>
      have hrun : run parser fs options = inaccessible options.path error := by
        rw [run, hfound]
      rw [hrun]
      exact ⟨rfl, rfl⟩
  | ok found =>
      refine ⟨(checkFiles parser fs.read found.files).1,
        accounts_checkFiles parser fs.read found.files, ?_, ?_, ?_⟩
      · rw [run, hfound]
      · rw [run, hfound]
        rfl
      · rw [run, hfound]
        by_cases hnone : (checkFiles parser fs.read found.files).1.failures = []
        · simp [CheckReport.hasFailures, hnone, exitSuccess]
        · simp [CheckReport.hasFailures, hnone, exitFailure]

end PythonStyle
