import PythonStyle.Diagnostic
import PythonStyle.Naming
import PythonStyle.Text.Blank

/-!
# Rules for lines

Each of these rules looks at one line, newline included, and reports at most once.
The rules read characters, not tokens: they look into strings and comments too.  All
but the rule for blank lines need nothing but the line.

Main definitions:

- `LineRules.checkLine`: the diagnostics of a line, in the order of their codes.
- `LineRules.checkText`: the diagnostics of all lines of a text.
- `LineRules.ofRule`: the diagnostics of a line with a given code.
- One definition for each rule, which says whether a line breaks it.

Main results:

- Theorem `LineRules.filter_checkLine`: which diagnostics of a line have a given code.
-/

namespace PythonStyle

/-- A line of a file: its number, counted from one, and its text. -/
structure Line where
  number : Nat
  text : List Char
  deriving DecidableEq, Repr, Inhabited

/-- Whether a line has blank characters only. -/
def Line.isBlank (l : Line) : Bool := l.text.all Text.isBlank

namespace LineRules

open Text

/-! ## Length and indentation -/

/-- Lines of so many characters, newline included, are too long. -/
def maxLength : Nat := 80

/-- Whether a line is too long. -/
def tooLong (text : List Char) : Bool := maxLength ≤ text.length

/-- The width of a step of indentation. -/
def indentWidth : Nat := 4

/-- The number of spaces that a line starts with. -/
def leadingSpaces (text : List Char) : Nat := (text.takeWhile (· == ' ')).length

/-- Whether the spaces in front of a line are no multiple of a step. -/
def misindented (text : List Char) : Bool := leadingSpaces text % indentWidth != 0

/-! ## Semicolons, comments and tasks -/

/-- Whether a closing parenthesis with a semicolon behind it follows an opening one. -/
def endsCall (text : List Char) : Bool := occurs ");".toList (after '(' text)

/-- Whether a text is a word of letters with a semicolon behind it, after spaces; the
word may be missing. -/
def endsWord (text : List Char) : Bool :=
  ((text.dropWhile (· == ' ')).dropWhile Char.isAlpha).head? == some ';'

/-- Whether a statement of a line ends with a semicolon. -/
def hasSemicolon (text : List Char) : Bool :=
  endsCall (firstLine text) || endsWord text

/-- Whether exactly one space stands between something and a comment. -/
def crowdsComment : List Char → Bool
  | [] => false
  | c :: text => (!Text.isBlank c && " # ".toList.isPrefixOf text) || crowdsComment text

/-- Whether a comment of a line stands too close to the code before it. -/
def hasCrowdedComment (text : List Char) : Bool := crowdsComment (firstLine text)

/-- Whether a line has a task, in small or capital letters, behind a comment sign. -/
def hasTask (text : List Char) : Bool :=
  occurs "todo".toList ((after '#' (firstLine text)).map Char.toLower)

/-! ## Blank lines -/

/-- So many blank lines may stand in a row. -/
def maxBlank : Nat := 2

/-- The number of blank lines in a row after a line, not counting those that were
reported, and whether the line is reported. -/
def countBlank (blank : Nat) (l : Line) : Nat × Bool :=
  if l.isBlank then
    if blank < maxBlank then (blank + 1, false) else (0, true)
  else (0, false)

/-! ## Keywords and names -/

/-- The keywords that take one space. -/
def keywords : List String := ["class", "def"]

/-- The keyword that stands last in a text with two spaces or more behind it. -/
def spacedKeyword? : List Char → Option String
  | [] => none
  | c :: text =>
    (spacedKeyword? text).or
      (keywords.find? fun k => (k.toList ++ [' ', ' ']).isPrefixOf (c :: text))

/-- What introduces a class at the start of its line. -/
def classKeyword : List Char := "class ".toList

/-- The beginning of a class name that is not in CamelCase, in a line that starts with
the class. -/
def badClassName? (text : List Char) : Option (List Char) :=
  if classKeyword.isPrefixOf text then
    Naming.lowercaseClassName? (text.drop classKeyword.length)
  else none

/-- A text without the newline at its end. -/
def content (text : List Char) : List Char :=
  if text.getLast? = some '\n' then text.dropLast else text

theorem prefix_content (text : List Char) : content text <+: text := by
  unfold content
  split
  · exact List.dropLast_prefix text
  · exact List.prefix_rfl

/-- The name of a function that starts with a capital letter, in a line that defines
no function in snake case. -/
def badFunctionName? (text : List Char) : Option (List Char) :=
  if Naming.isSnakeCaseDefinition (content text) then none
  else Naming.uppercaseFunctionName? (content text)

/-! ## All rules -/

/-- The diagnostic of a rule that needs no subject, if the rule is broken. -/
def flag (file : String) (number : Nat) (code : Code) (broken : Bool) : List Diagnostic :=
  if broken then [.of file number code none] else []

/-- The diagnostic of a rule about a keyword or name, if there is one to report. -/
def flagName (file : String) (number : Nat) (code : Code) (subject : Option String) :
    List Diagnostic :=
  subject.toList.map fun s => .of file number code (some s)

/-- All diagnostics of a rule have its code. -/
theorem filter_flag (p : Code → Bool) (file : String) (number : Nat) (code : Code)
    (broken : Bool) : (flag file number code broken).filter (fun d => p d.code) =
      if p code then flag file number code broken else [] := by
  cases broken with
  | false => simp [flag]
  | true => simp [flag, Diagnostic.of, List.filter_cons]

theorem filter_flagName (p : Code → Bool) (file : String) (number : Nat) (code : Code)
    (subject : Option String) :
    (flagName file number code subject).filter (fun d => p d.code) =
      if p code then flagName file number code subject else [] := by
  cases subject with
  | none => simp [flagName]
  | some s => simp [flagName, Diagnostic.of, List.filter_cons]

/-- Among the diagnostics of a rule are those of the rule, and no others. -/
theorem filter_code_flag (wanted : Code) (file : String) (number : Nat) (code : Code)
    (broken : Bool) : (flag file number code broken).filter (fun d => d.code == wanted) =
      if code = wanted then flag file number code broken else [] := by
  simp [filter_flag (· == wanted)]

theorem filter_code_flagName (wanted : Code) (file : String) (number : Nat) (code : Code)
    (subject : Option String) :
    (flagName file number code subject).filter (fun d => d.code == wanted) =
      if code = wanted then flagName file number code subject else [] := by
  simp [filter_flagName (· == wanted)]

/-- The diagnostics of a line after so many blank lines, and the number of blank lines
after it.  Too many blank lines are reported for the line behind them. -/
def checkLine (file : String) (blank : Nat) (l : Line) : List Diagnostic × Nat :=
  let counted := countBlank blank l
  (flag file l.number .lineLength (tooLong l.text) ++
    flag file l.number .indentation (misindented l.text) ++
    flag file l.number .semicolon (hasSemicolon l.text) ++
    flag file l.number .commentSpacing (hasCrowdedComment l.text) ++
    flag file l.number .openTask (hasTask l.text) ++
    flag file (l.number + 1) .blankLines counted.2 ++
    flagName file l.number .keywordSpacing (spacedKeyword? (firstLine l.text)) ++
    flagName file l.number .className ((badClassName? l.text).map String.ofList) ++
    flagName file l.number .functionName ((badFunctionName? l.text).map String.ofList),
    counted.1)

/-- What a rule reports of a line after so many blank lines.  The rules for functions report
nothing. -/
def ofRule (file : String) (blank : Nat) (l : Line) : Code → List Diagnostic
  | .lineLength => flag file l.number .lineLength (tooLong l.text)
  | .indentation => flag file l.number .indentation (misindented l.text)
  | .semicolon => flag file l.number .semicolon (hasSemicolon l.text)
  | .commentSpacing => flag file l.number .commentSpacing (hasCrowdedComment l.text)
  | .openTask => flag file l.number .openTask (hasTask l.text)
  | .blankLines => flag file (l.number + 1) .blankLines (countBlank blank l).2
  | .keywordSpacing => flagName file l.number .keywordSpacing (spacedKeyword? (firstLine l.text))
  | .className => flagName file l.number .className ((badClassName? l.text).map String.ofList)
  | .functionName =>
    flagName file l.number .functionName ((badFunctionName? l.text).map String.ofList)
  | .argumentName | .variableName | .mutableDefault => []

/-- The diagnostics of a line with a given code are those of one rule. -/
theorem filter_checkLine (file : String) (blank : Nat) (l : Line) (code : Code) :
    (checkLine file blank l).1.filter (fun d => d.code == code) = ofRule file blank l code := by
  cases code
  all_goals simp [checkLine, ofRule, filter_code_flag, filter_code_flagName]

/-- The diagnostics of lines, numbered from a given number on, after so many blank
lines. -/
def checkLines (file : String) : Nat → Nat → List (List Char) → List Diagnostic
  | _, _, [] => []
  | number, blank, text :: more =>
    let (found, blank) := checkLine file blank ⟨number, text⟩
    found ++ checkLines file (number + 1) blank more

/-- The diagnostics of the lines of a text. -/
def checkText (file : String) (text : List Char) : List Diagnostic :=
  checkLines file 1 0 (lines text)

end LineRules

end PythonStyle
