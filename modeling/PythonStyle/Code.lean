import PythonStyle.Text.Search

/-!
# Rules and their messages

Each rule has a code, and a template for the messages of its diagnostics.  A template
may have a place for a keyword or a name.

Main definitions:

- `Code`: the twelve rules, in the order of their codes.
- `Code.text` and `Code.ofText?`: the code as it is written.
- `Code.template`, `Code.message`: what is said when a rule is broken.

Main results:

- `Code.ofText?_text` and `Code.text_injective`: a written code tells the rule.
- `Code.index_lt_iff`: the written codes are in the order of the rules.
- `Code.message_of_template`: a message about a name shows it as it is.
- `Code.messageAbout_eq_iff`: when a message about a keyword shows it as it is.
-/

namespace PythonStyle

/-- A rule of style. -/
inductive Code where
  /-- A line is too long. -/
  | lineLength
  /-- The indentation is not a multiple of four. -/
  | indentation
  /-- A statement ends with a semicolon. -/
  | semicolon
  /-- A comment stands too close to the code before it. -/
  | commentSpacing
  /-- A comment says that something is still to be done. -/
  | openTask
  /-- There are too many blank lines in a row. -/
  | blankLines
  /-- A keyword has too many spaces behind it. -/
  | keywordSpacing
  /-- A class name is not in CamelCase. -/
  | className
  /-- A function name is not in snake case. -/
  | functionName
  /-- The name of a parameter is not in snake case. -/
  | argumentName
  /-- The name of a variable is not in snake case. -/
  | variableName
  /-- The default of a parameter is not a literal constant. -/
  | mutableDefault
  deriving DecidableEq, Repr, Inhabited

namespace Code

/-- All rules, in the order of their codes. -/
def all : List Code :=
  [lineLength, indentation, semicolon, commentSpacing, openTask, blankLines, keywordSpacing,
    className, functionName, argumentName, variableName, mutableDefault]

/-- Every rule is among all rules. -/
theorem mem_all (c : Code) : c ∈ all := by cases c <;> decide

/-- The place of a rule among all rules, counted from zero. -/
def index : Code → Nat
  | lineLength => 0
  | indentation => 1
  | semicolon => 2
  | commentSpacing => 3
  | openTask => 4
  | blankLines => 5
  | keywordSpacing => 6
  | className => 7
  | functionName => 8
  | argumentName => 9
  | variableName => 10
  | mutableDefault => 11

/-- A rule stands at its place. -/
theorem all_getElem?_index (c : Code) : all[c.index]? = some c := by cases c <;> rfl

/-- No two rules stand at the same place. -/
theorem index_injective {c d : Code} (h : c.index = d.index) : c = d := by
  have hc := all_getElem?_index c
  rw [h, all_getElem?_index d] at hc
  exact (Option.some.inj hc).symm

/-- The code of a rule as it is written. -/
def text : Code → String
  | lineLength => "S001"
  | indentation => "S002"
  | semicolon => "S003"
  | commentSpacing => "S004"
  | openTask => "S005"
  | blankLines => "S006"
  | keywordSpacing => "S007"
  | className => "S008"
  | functionName => "S009"
  | argumentName => "S010"
  | variableName => "S011"
  | mutableDefault => "S012"

/-- The rule with a given code. -/
def ofText? (s : String) : Option Code :=
  all.find? (·.text == s)

/-- A written code tells its rule. -/
@[simp] theorem ofText?_text (c : Code) : ofText? c.text = some c := by cases c <;> decide

/-- No two rules have the same code. -/
theorem text_injective {c d : Code} (h : c.text = d.text) : c = d :=
  Option.some.inj (by rw [← ofText?_text c, h, ofText?_text])

/-- The codes are written in the order of the rules. -/
theorem index_lt_iff (c d : Code) : c.index < d.index ↔ c.text < d.text := by
  cases c <;> cases d <;> decide

/-! ## Messages -/

/-- The place for a keyword in a template. -/
def keywordPlace : List Char := "\x7bkeyword\x7d".toList

/-- The place for a name in a template. -/
def namePlace : List Char := "\x7bname\x7d".toList

/-- What is said when a rule is broken, with a place for the keyword or the name. -/
def template : Code → String
  | lineLength => "Too long"
  | indentation => "Indentation is not a multiple of four"
  | semicolon => "Unnecessary semicolon after a statement"
  | commentSpacing => "Less than two spaces before inline comments"
  | openTask => "TODO found"
  | blankLines => "More than two blank lines preceding a code line"
  | keywordSpacing => "Too many spaces after '\x7bkeyword\x7d'"
  | className => "Class name '\x7bname\x7d' should be written in CamelCase"
  | functionName => "Function name \x7bname\x7d should be written in snake_case"
  | argumentName => "Argument name \x7bname\x7d should be written in snake_case"
  | variableName => "Variable \x7bname\x7d should be written in snake_case"
  | mutableDefault => "Default argument value is mutable"

/-- The message of a rule about a keyword or a name: it takes the place for a keyword,
and then every place for a name, also one that the keyword brought along. -/
def messageAbout (c : Code) (subject : List Char) : List Char :=
  Text.replaceAll namePlace subject (Text.replaceAll keywordPlace subject c.template.toList)

/-- The message of a rule.  Without a subject it is the template. -/
def message (c : Code) : Option String → String
  | some subject => String.ofList (c.messageAbout subject.toList)
  | none => c.template

@[simp] theorem message_none (c : Code) : c.message none = c.template := rfl

/-- A template with one place for a name and none for a keyword takes the name there. -/
theorem messageAbout_of_template {c : Code} {before behind : List Char}
    (htemplate : c.template.toList = before ++ (namePlace ++ behind))
    (hbefore : '\x7b' ∉ before) (hbehind : '\x7b' ∉ behind) (subject : List Char) :
    c.messageAbout subject = before ++ (subject ++ behind) := by
  have hplace : namePlace = ['\x7b', 'n', 'a', 'm', 'e', '\x7d'] := by decide
  have hkeyword : Text.replaceAll keywordPlace subject (namePlace ++ behind) =
      namePlace ++ behind := by
    have hprefix : ¬ keywordPlace <+: '\x7b' :: (['n', 'a', 'm', 'e', '\x7d'] ++ behind) := by
      rw [show keywordPlace = '\x7b' :: 'k' :: "eyword\x7d".toList by decide]
      simp
    have hinside : '\x7b' ∉ ['n', 'a', 'm', 'e', '\x7d'] ++ behind := by simp [hbehind]
    rw [hplace, List.cons_append, Text.replaceAll_cons subject hprefix]
    exact congrArg _ (Text.replaceAll_of_not_mem hinside _ _)
  have hplaces : Text.replaceAll keywordPlace subject (before ++ (namePlace ++ behind)) =
      before ++ (namePlace ++ behind) :=
    (Text.replaceAll_append_of_not_mem hbefore _ _ _).trans (congrArg _ hkeyword)
  rw [messageAbout, htemplate, hplaces]
  calc Text.replaceAll namePlace subject (before ++ (namePlace ++ behind))
      = before ++ Text.replaceAll namePlace subject (namePlace ++ behind) :=
        Text.replaceAll_append_of_not_mem hbefore _ _ _
    _ = before ++ (subject ++ Text.replaceAll namePlace subject behind) := by
        rw [Text.replaceAll_append subject (by simp [hplace])]
    _ = before ++ (subject ++ behind) := by
        rw [show Text.replaceAll namePlace subject behind = behind from
          Text.replaceAll_of_not_mem hbehind _ _]

/-- A template with one place for a keyword and none for a name takes the keyword there.  Then the
places for a name are taken that the keyword brought along. -/
theorem messageAbout_eq_replaceAll {c : Code} {before behind : List Char}
    (htemplate : c.template.toList = before ++ (keywordPlace ++ behind))
    (hbefore : '\x7b' ∉ before) (hbehind : '\x7b' ∉ behind) (keyword : List Char) :
    c.messageAbout keyword =
      Text.replaceAll namePlace keyword (before ++ (keyword ++ behind)) := by
  have hplace : keywordPlace = '\x7b' :: "keyword\x7d".toList := by decide
  rw [messageAbout, htemplate]
  apply congrArg
  calc Text.replaceAll keywordPlace keyword (before ++ (keywordPlace ++ behind))
      = before ++ Text.replaceAll keywordPlace keyword (keywordPlace ++ behind) :=
        Text.replaceAll_append_of_not_mem hbefore _ _ _
    _ = before ++ (keyword ++ Text.replaceAll keywordPlace keyword behind) := by
        rw [Text.replaceAll_append keyword (by simp [hplace])]
    _ = before ++ (keyword ++ behind) := by
        rw [hplace, Text.replaceAll_of_not_mem hbehind]

/-- A message about a keyword shows it as it is, unless a place for a name is a part of it. -/
theorem messageAbout_eq_iff {c : Code} {before behind : List Char}
    (htemplate : c.template.toList = before ++ (keywordPlace ++ behind))
    (hbefore : '\x7b' ∉ before) (hbehind : '\x7b' ∉ behind) (hend : '\x7d' ∉ behind)
    (keyword : List Char) :
    c.messageAbout keyword = before ++ (keyword ++ behind) ↔
      ¬ namePlace <:+: keyword ∨ keyword = namePlace := by
  have hfirst : namePlace = '\x7b' :: "name\x7d".toList := by decide
  have hlast : namePlace = "\x7bname".toList ++ ['\x7d'] := by decide
  have hinside : namePlace <:+: before ++ (keyword ++ behind) ↔ namePlace <:+: keyword := by
    rw [hfirst, Text.infix_append_iff hbefore, ← hfirst, hlast, Text.append_infix_iff hend]
  rw [messageAbout_eq_replaceAll htemplate hbefore hbehind,
    Text.replaceAll_eq_self_iff (by simp [hfirst]), hinside]

/-- A message about a name shows the name as it is. -/
theorem message_of_template {c : Code} {before behind : String}
    (htemplate : c.template.toList = before.toList ++ (namePlace ++ behind.toList))
    (hbefore : '\x7b' ∉ before.toList) (hbehind : '\x7b' ∉ behind.toList) (name : String) :
    c.message (some name) = before ++ (name ++ behind) := by
  rw [message, messageAbout_of_template htemplate hbefore hbehind, String.ofList_append,
    String.ofList_append, String.ofList_toList, String.ofList_toList, String.ofList_toList]

/-- A message about a keyword shows the keyword. -/
theorem message_keywordSpacing {keyword : String} (h : '\x7b' ∉ keyword.toList) :
    keywordSpacing.message (some keyword) = "Too many spaces after '" ++ (keyword ++ "'") := by
  have htemplate : keywordSpacing.template.toList =
      "Too many spaces after '".toList ++ (keywordPlace ++ "'".toList) := rfl
  have hplain : ¬ namePlace <:+: keyword.toList := fun hplace => h (hplace.subset (by decide))
  have hshown := (messageAbout_eq_iff htemplate (by decide) (by decide) (by decide)
    keyword.toList).mpr (Or.inl hplain)
  rw [message, hshown, String.ofList_append, String.ofList_append, String.ofList_toList,
    String.ofList_toList, String.ofList_toList]

theorem message_className (name : String) :
    className.message (some name) =
      "Class name '" ++ (name ++ "' should be written in CamelCase") :=
  message_of_template rfl (by decide) (by decide) name

theorem message_argumentName (name : String) :
    argumentName.message (some name) =
      "Argument name " ++ (name ++ " should be written in snake_case") :=
  message_of_template rfl (by decide) (by decide) name

theorem message_functionName (name : String) :
    functionName.message (some name) =
      "Function name " ++ (name ++ " should be written in snake_case") :=
  message_of_template rfl (by decide) (by decide) name

end Code

end PythonStyle
