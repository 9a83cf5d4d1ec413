import Mathlib.Data.List.Basic
import PythonStyle.LineRules
import PythonStyle.Proofs.CapitalNames
import PythonStyle.Proofs.Matching

/-!
# Function names in a line

The rule for function names searches a line twice.  One search is for a name that starts with a
capital letter.  The other is for a name in snake case, and keeps the first from being reported.

Main definitions:

- `Naming.SnakeFunctionName` and `Naming.SnakeDefinition`: lines that define a function in snake
  case.

Main results:

- Theorem `Naming.isSnakeCaseDefinition_iff`: the lines that are accepted.
- Theorem `LineRules.functionName_reports`: what is reported of a line.
-/

namespace PythonStyle

namespace Naming

open Text Text.Shape

/-! ## Names in snake case -/

/-- Whether a text is a row of underscores, so many at most. -/
def Underscores (most : Nat) (row : List Char) : Prop :=
  ∃ n ≤ most, row = List.replicate n '_'

/-- Whether a name is made of two words at most, with so many underscores in front of them, between
them and behind them.  Only the second word may have digits, and any part may be missing. -/
def SnakeFunctionName (name : List Char) : Prop :=
  ∃ front first between second behind,
    name = front ++ first ++ between ++ second ++ behind ∧
    Underscores 2 front ∧ (∀ c ∈ first, isSmall c = true) ∧
    Underscores 1 between ∧ (∀ c ∈ second, isSmallOrDigit c = true) ∧
    Underscores 2 behind

/-- Whether a line, which is one line only, ends with a signature and has the keyword for functions
before it, with a name in snake case up to the first parenthesis. -/
def SnakeDefinition (line : List Char) : Prop :=
  '\n' ∉ line ∧ ∃ start name inside,
    line = start ++ (definitionKeyword ++ (name ++ '(' :: (inside ++ signatureEnd))) ∧
    '(' ∉ name ∧ SnakeFunctionName name

theorem matches_underscores_iff {most : Nat} {row : List Char} :
    Matches (List.replicate most (.optional isUnderscore)) row ↔ Underscores most row := by
  rw [matches_replicate_optional_iff]
  constructor
  · rintro ⟨hlength, hrow⟩
    refine ⟨row.length, hlength, List.eq_replicate_iff.mpr ⟨rfl, fun c hc => ?_⟩⟩
    exact beq_iff_eq.mp (hrow c hc)
  · rintro ⟨n, hn, rfl⟩
    refine ⟨by rwa [List.length_replicate], fun c hc => ?_⟩
    exact beq_iff_eq.mpr (List.eq_of_mem_replicate hc)

/-- The shape of function names, in its five parts. -/
theorem functionName_eq : functionName =
    List.replicate 2 (.optional isUnderscore) ++ [.many isSmall] ++
      List.replicate 1 (.optional isUnderscore) ++ [.many isSmallOrDigit] ++
      List.replicate 2 (.optional isUnderscore) := rfl

theorem matches_functionName_iff {name : List Char} :
    Matches functionName name ↔ SnakeFunctionName name := by
  rw [functionName_eq]
  simp only [matches_append_iff, matches_underscores_iff, matches_many_iff]
  constructor
  · rintro ⟨_, behind, rfl, ⟨_, second, rfl, ⟨_, between, rfl, ⟨front, first, rfl, hfront, hfirst⟩,
      hbetween⟩, hsecond⟩, hbehind⟩
    exact ⟨front, first, between, second, behind, rfl, hfront, hfirst, hbetween, hsecond, hbehind⟩
  · rintro ⟨front, first, between, second, behind, rfl, hfront, hfirst, hbetween, hsecond, hbehind⟩
    exact ⟨_, behind, rfl, ⟨_, second, rfl, ⟨_, between, rfl, ⟨front, first, rfl, hfront, hfirst⟩,
      hbetween⟩, hsecond⟩, hbehind⟩

theorem takes_parenthesis : ∀ slot ∈ functionName, slot.takes '(' = false := by
  simp [functionName, Slot.takes, isUnderscore, isSmallOrDigit, isSmall, isDigit]

/-- The name is cut off at the first parenthesis, which no part of it takes. -/
theorem startsSnakeCaseSignature_iff {text : List Char} :
    startsSnakeCaseSignature text = true ↔
      ∃ name inside, text = name ++ '(' :: (inside ++ signatureEnd) ∧
        '(' ∉ name ∧ SnakeFunctionName name := by
  constructor
  · intro h
    rw [startsSnakeCaseSignature] at h
    split at h
    · next signature hrest =>
        obtain ⟨inside, rfl⟩ := List.isSuffixOf_iff_suffix.mp h
        refine ⟨take functionName text, inside, ?_, not_mem_take takes_parenthesis text,
          matches_functionName_iff.mp (matches_take _ _)⟩
        rw [← hrest, take_append_rest]
    · cases h
  · rintro ⟨name, inside, rfl, -, hname⟩
    have hrest : rest functionName (name ++ '(' :: (inside ++ signatureEnd)) =
        '(' :: (inside ++ signatureEnd) :=
      rest_append_of_matches (matches_functionName_iff.mpr hname) (by simpa using takes_parenthesis)
    rw [startsSnakeCaseSignature, hrest]
    exact List.isSuffixOf_iff_suffix.mpr (List.suffix_append inside signatureEnd)

/-- The lines that are accepted are the definitions in snake case. -/
theorem isSnakeCaseDefinition_iff {line : List Char} :
    isSnakeCaseDefinition line = true ↔ SnakeDefinition line := by
  rw [isSnakeCaseDefinition, Bool.and_eq_true, Bool.not_eq_true', List.contains_eq_mem,
    decide_eq_false_iff_not, List.any_eq_true]
  refine and_congr_right fun _ => ?_
  simp only [mem_afterEach, startsSnakeCaseSignature_iff]
  constructor
  · rintro ⟨_, ⟨start, rfl⟩, name, inside, rfl, hname⟩
    exact ⟨start, name, inside, rfl, hname⟩
  · rintro ⟨start, name, inside, rfl, hname⟩
    exact ⟨_, ⟨start, rfl⟩, name, inside, rfl, hname⟩

end Naming

namespace LineRules

open Text Naming

/-! ## The rule -/

/-- The diagnostic of a function with a given name. -/
def nameDiagnostic (file : String) (number : Nat) (name : List Char) : Diagnostic where
  file := file
  line := number
  code := .functionName
  message := "Function name " ++ (String.ofList name ++ " should be written in snake_case")

theorem nameDiagnostic_injective {file : String} {number : Nat} {name other : List Char}
    (h : nameDiagnostic file number name = nameDiagnostic file number other) : name = other := by
  have htexts : String.ofList name = String.ofList other := by simpa [nameDiagnostic] using h
  simpa using congrArg String.toList htexts

/-- The rule for function names reports a line once, with the name that was found, or not at all. -/
theorem filter_checkLine_functionName (file : String) (blank number : Nat) (text : List Char) :
    (checkLine file blank ⟨number, text⟩).1.filter (fun d => d.code == .functionName) =
      (badFunctionName? text).toList.map (nameDiagnostic file number) := by
  have hflag : flagName file number .functionName ((badFunctionName? text).map String.ofList) =
      (badFunctionName? text).toList.map (nameDiagnostic file number) := by
    cases badFunctionName? text with
    | none => rfl
    | some name => simp [flagName, Diagnostic.of, Code.message_functionName, nameDiagnostic]
  rw [← hflag]
  exact filter_checkLine file blank ⟨number, text⟩ .functionName

theorem badFunctionName?_eq_some_iff {text name : List Char} :
    badFunctionName? text = some name ↔
      Candidate (firstLine (content text)) name ∧ ¬ SnakeDefinition (content text) := by
  rw [badFunctionName?, ← isSnakeCaseDefinition_iff, ← uppercaseFunctionName?_eq_some_iff]
  split
  · next h => simp [h]
  · next h => simp [h]

/-- A line is searched for a name that starts with a capital letter: there is one if the keyword
and such a letter come before the last parenthesis that is closed later, and it goes from the last
such keyword up to that parenthesis.  A search with backtracking comes upon all names that the
pattern has in the line, and upon this one first.  The rule reports the line, once and with that
name, unless the line defines a function in snake case. -/
theorem functionName_reports (text : List Char) :
    ((uppercaseFunctionName? (content text)).isSome = true ↔
        ∃ q p, LastOpening (firstLine (content text)) q ∧
          DefinesAt (firstLine (content text)) q p) ∧
      (∀ name, uppercaseFunctionName? (content text) = some name ↔
        Candidate (firstLine (content text)) name) ∧
      (∀ name, name ∈ functionNameTries (content text) ↔ HasDefinition (content text) name) ∧
      uppercaseFunctionName? (content text) = (functionNameTries (content text)).head? ∧
      (isSnakeCaseDefinition (content text) = true ↔ SnakeDefinition (content text)) ∧
      ∀ file blank number,
        (∀ name, (checkLine file blank ⟨number, text⟩).1.filter (fun d => d.code == .functionName) =
            [nameDiagnostic file number name] ↔
          Candidate (firstLine (content text)) name ∧ ¬ SnakeDefinition (content text)) ∧
        ((checkLine file blank ⟨number, text⟩).1.filter (fun d => d.code == .functionName) = [] ↔
          ∀ name, Candidate (firstLine (content text)) name → SnakeDefinition (content text)) := by
  refine ⟨isSome_uppercaseFunctionName?_iff, fun name => uppercaseFunctionName?_eq_some_iff,
    fun name => mem_functionNameTries, uppercaseFunctionName?_eq_head? (content text),
    isSnakeCaseDefinition_iff, fun file blank number => ⟨fun name => ?_, ?_⟩⟩
  · rw [filter_checkLine_functionName, ← badFunctionName?_eq_some_iff]
    cases badFunctionName? text with
    | none => simp
    | some other =>
        rw [Option.toList_some, List.map_singleton, List.singleton_inj, Option.some.injEq]
        exact ⟨nameDiagnostic_injective, congrArg _⟩
  · rw [filter_checkLine_functionName, List.map_eq_nil_iff, Option.toList_eq_nil_iff,
      Option.eq_none_iff_forall_ne_some]
    refine forall_congr' fun name => ?_
    rw [ne_eq, badFunctionName?_eq_some_iff, not_and_not_right]

end LineRules

end PythonStyle
