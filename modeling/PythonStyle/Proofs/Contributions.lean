import Mathlib.Data.List.Basic
import PythonStyle.Checking.Files
import PythonStyle.Proofs.Encoding

/-!
# What a file adds to the findings

The findings of all files go to one place.  This module says what a single file adds
there, as a function of its label and its text alone: neither what was found before nor
the order of the files has a part in it.

Main definitions:

- `FunctionRules.ofFunction`: the diagnostics about a function, as a list.
- `Code.forFunctions`: the rules that judge functions.
- `LineRules.SubjectOf`: what the rules for lines may speak of.
- `lineFindings` and `functionFindings`: what the two sets of rules find in a text.
- `contribution` and `outcome`: what a file adds to the diagnostics, and how its check
  ends.

Main results:

- Theorem `FunctionRules.diagnostics_checkFacts`: the rules for functions add the
  diagnostics of each function in turn.
- Theorems `diagnostics_checkSource` and `diagnostics_checkFile`: a check adds the
  contribution of its file to the diagnostics before it.
- Theorem `FunctionRules.mem_ofFunction_cases`: what is said about a function, and for which line.
- Theorems `FunctionRules.exists_of_mem_ofFunction` and `LineRules.exists_of_mem_checkLines`:
  what the two sets of rules may speak of, and for which lines.
- Theorem `readText_eq_ok_iff`: the text that is read at a path.
- Theorem `file_of_mem_contribution`: the diagnostics of a file bear its label.
- Theorem `filter_contribution`: the rules for lines find the same in programs and in other texts.
-/

namespace PythonStyle

/-- A loop whose steps add to a list adds what its steps add, in order. -/
theorem foldl_append_flatMap {σ α β : Type} (view : σ → List β) {step : σ → α → σ}
    {added : α → List β} (h : ∀ now x, view (step now x) = view now ++ added x)
    (xs : List α) (now : σ) : view (xs.foldl step now) = view now ++ xs.flatMap added := by
  induction xs generalizing now with
  | nil => simp
  | cons x xs ih =>
      rw [List.foldl_cons, ih, h, List.flatMap_cons, List.append_assoc]

namespace Findings

variable {α : Type} {step : Findings → α → Findings}

theorem diagnostics_foldl {added : α → List Diagnostic}
    (h : ∀ now x, (step now x).diagnostics.toList = now.diagnostics.toList ++ added x)
    (xs : List α) (now : Findings) :
    (xs.foldl step now).diagnostics.toList = now.diagnostics.toList ++ xs.flatMap added :=
  foldl_append_flatMap (fun f : Findings => f.diagnostics.toList) h xs now

theorem events_foldl {added : α → List Event}
    (h : ∀ now x, (step now x).events.toList = now.events.toList ++ added x)
    (xs : List α) (now : Findings) :
    (xs.foldl step now).events.toList = now.events.toList ++ xs.flatMap added :=
  foldl_append_flatMap (fun f : Findings => f.events.toList) h xs now

end Findings

/-! ## Rules for functions -/

namespace FunctionRules

/-- The diagnostics about a parameter. -/
def ofParameter (file : String) (p : Parameter) : List Diagnostic :=
  if Naming.isSnakeCase p.name.toList then []
  else [.of file p.line .argumentName (some p.name)]

/-- The diagnostics about a target of an assignment on a given line. -/
def ofTarget (file : String) (line : Nat) : Except UnsupportedTarget Target → List Diagnostic
  | .ok target =>
    if Naming.isSnakeCaseTarget target.dotted.toList then []
    else [.of file line .variableName (some target.dotted)]
  | .error _ => []

/-- The diagnostics about an assignment. -/
def ofAssignment (file : String) (a : Assignment) : List Diagnostic :=
  a.targets.flatMap (ofTarget file a.line)

/-- The diagnostics about a default. -/
def ofDefault (file : String) (d : DefaultValue) : List Diagnostic :=
  if d.constant then [] else [.of file d.line .mutableDefault none]

/-- The diagnostics about a function: its parameters, its assignments, its defaults. -/
def ofFunction (file : String) (f : Function) : List Diagnostic :=
  f.params.flatMap (ofParameter file) ++ f.assignments.flatMap (ofAssignment file) ++
    f.defaults.flatMap (ofDefault file)

theorem diagnostics_checkParameter (file : String) (now : Findings) (p : Parameter) :
    (checkParameter file now p).diagnostics.toList =
      now.diagnostics.toList ++ ofParameter file p := by
  unfold checkParameter ofParameter
  split <;> simp

theorem diagnostics_checkTarget (file : String) (line : Nat) (now : Findings)
    (target : Except UnsupportedTarget Target) :
    (checkTarget file line now target).diagnostics.toList =
      now.diagnostics.toList ++ ofTarget file line target := by
  cases target with
  | error unsupported => simp [checkTarget, ofTarget]
  | ok target =>
      simp only [checkTarget, ofTarget]
      split <;> simp

theorem diagnostics_checkAssignment (file : String) (now : Findings) (a : Assignment) :
    (checkAssignment file now a).diagnostics.toList =
      now.diagnostics.toList ++ ofAssignment file a :=
  Findings.diagnostics_foldl (diagnostics_checkTarget file a.line) a.targets now

theorem diagnostics_checkDefault (file : String) (now : Findings) (d : DefaultValue) :
    (checkDefault file now d).diagnostics.toList =
      now.diagnostics.toList ++ ofDefault file d := by
  unfold checkDefault ofDefault
  split <;> simp

theorem diagnostics_checkFunction (file : String) (now : Findings) (f : Function) :
    (checkFunction file now f).diagnostics.toList =
      now.diagnostics.toList ++ ofFunction file f := by
  unfold checkFunction ofFunction
  rw [Findings.diagnostics_foldl (diagnostics_checkDefault file),
    Findings.diagnostics_foldl (diagnostics_checkAssignment file),
    Findings.diagnostics_foldl (diagnostics_checkParameter file)]
  simp only [List.append_assoc]

/-- The rules for functions add the diagnostics of each function in turn. -/
theorem diagnostics_checkFacts (now : Findings) (facts : FileFacts) :
    (checkFacts now facts).diagnostics.toList =
      now.diagnostics.toList ++ facts.functions.flatMap (ofFunction facts.path) :=
  Findings.diagnostics_foldl (diagnostics_checkFunction facts.path) facts.functions now

/-- On findings that are there already, the rules add what they find on their own. -/
theorem diagnostics_checkFacts_eq_append (now : Findings) (facts : FileFacts) :
    (checkFacts now facts).diagnostics.toList =
      now.diagnostics.toList ++ (checkFacts .empty facts).diagnostics.toList := by
  rw [diagnostics_checkFacts, diagnostics_checkFacts, Findings.diagnostics_empty,
    List.nil_append]

/-- What is said about a function is said about the name of a parameter, a target of an assignment
or a default, for the line of each. -/
theorem mem_ofFunction_cases {file : String} {f : Function} {d : Diagnostic}
    (h : d ∈ ofFunction file f) :
    (∃ p ∈ f.params, d = .of file p.line .argumentName (some p.name)) ∨
      (∃ a ∈ f.assignments, ∃ t, .ok t ∈ a.targets ∧
        d = .of file a.line .variableName (some t.dotted)) ∨
      ∃ v ∈ f.defaults, d = .of file v.line .mutableDefault none := by
  simp only [ofFunction, List.mem_append, List.mem_flatMap] at h
  rcases h with (⟨p, hp, hd⟩ | ⟨a, ha, hd⟩) | ⟨v, hv, hd⟩
  · unfold ofParameter at hd
    split at hd
    · simp at hd
    · exact .inl ⟨p, hp, List.mem_singleton.mp hd⟩
  · obtain ⟨target, htarget, hd⟩ := List.mem_flatMap.mp hd
    cases target with
    | error unsupported => simp [ofTarget] at hd
    | ok t =>
        simp only [ofTarget] at hd
        split at hd
        · simp at hd
        · exact .inr (.inl ⟨a, ha, t, htarget, List.mem_singleton.mp hd⟩)
  · unfold ofDefault at hd
    split at hd
    · simp at hd
    · exact .inr (.inr ⟨v, hv, List.mem_singleton.mp hd⟩)

/-- What is said about a function speaks of nothing, of a parameter or of a target of an
assignment. -/
theorem exists_of_mem_ofFunction {file : String} {f : Function} {d : Diagnostic}
    (h : d ∈ ofFunction file f) : ∃ line code subject, d = .of file line code subject ∧
      (subject = none ∨ (∃ p ∈ f.params, subject = some p.name) ∨
        ∃ a ∈ f.assignments, ∃ t, .ok t ∈ a.targets ∧ subject = some t.dotted) := by
  rcases mem_ofFunction_cases h with ⟨p, hp, rfl⟩ | ⟨a, ha, t, ht, rfl⟩ | ⟨v, -, rfl⟩
  · exact ⟨_, _, _, rfl, .inr (.inl ⟨p, hp, rfl⟩)⟩
  · exact ⟨_, _, _, rfl, .inr (.inr ⟨a, ha, t, ht, rfl⟩)⟩
  · exact ⟨_, _, _, rfl, .inl rfl⟩

theorem file_of_mem_ofFunction {file : String} {f : Function} {d : Diagnostic}
    (h : d ∈ ofFunction file f) : d.file = file := by
  obtain ⟨line, code, subject, rfl, _⟩ := exists_of_mem_ofFunction h
  rfl

end FunctionRules

/-! ## Rules for lines -/

/-- The rules that judge functions; all others judge lines. -/
def Code.forFunctions : List Code := [argumentName, variableName, mutableDefault]

namespace LineRules

/-- What the rules for lines may speak of: nothing, or a keyword or name of the line. -/
inductive SubjectOf (text : List Char) : Option String → Prop where
  | nothing : SubjectOf text none
  | keyword {k : String} (h : spacedKeyword? (Text.firstLine text) = some k) :
      SubjectOf text (some k)
  | className {name : List Char} (h : badClassName? text = some name) :
      SubjectOf text (some (String.ofList name))
  | functionName {name : List Char} (h : badFunctionName? text = some name) :
      SubjectOf text (some (String.ofList name))

theorem eq_of_mem_flag {file : String} {number : Nat} {code : Code} {broken : Bool}
    {d : Diagnostic} (h : d ∈ flag file number code broken) : d = .of file number code none := by
  unfold flag at h
  split at h
  · exact List.mem_singleton.mp h
  · cases h

theorem exists_of_mem_flagName {file : String} {number : Nat} {code : Code}
    {subject : Option String} {d : Diagnostic} (h : d ∈ flagName file number code subject) :
    ∃ s, subject = some s ∧ d = .of file number code (some s) := by
  obtain ⟨s, hs, rfl⟩ := List.mem_map.mp h
  exact ⟨s, Option.mem_toList.mp hs, rfl⟩

/-- A line is reported under its own number, unless it is the last of too many blank ones. -/
theorem exists_of_mem_checkLine {file : String} {blank : Nat} {l : Line} {d : Diagnostic}
    (h : d ∈ (checkLine file blank l).1) :
    ∃ number code subject, SubjectOf l.text subject ∧ code ∉ Code.forFunctions ∧
      (code ≠ .blankLines → number = l.number) ∧ d = .of file number code subject := by
  simp only [checkLine, List.mem_append] at h
  rcases h with (((((((h | h) | h) | h) | h) | h) | h) | h) | h
  case inl.inl.inr =>
      obtain ⟨s, hs, hd⟩ := exists_of_mem_flagName h
      exact ⟨_, _, _, .keyword hs, by decide, fun _ => rfl, hd⟩
  case inl.inr =>
      obtain ⟨s, hs, hd⟩ := exists_of_mem_flagName h
      obtain ⟨name, hname, rfl⟩ := Option.map_eq_some_iff.mp hs
      exact ⟨_, _, _, .className hname, by decide, fun _ => rfl, hd⟩
  case inr =>
      obtain ⟨s, hs, hd⟩ := exists_of_mem_flagName h
      obtain ⟨name, hname, rfl⟩ := Option.map_eq_some_iff.mp hs
      exact ⟨_, _, _, .functionName hname, by decide, fun _ => rfl, hd⟩
  case inl.inl.inl.inr =>
      exact ⟨_, _, _, .nothing, by decide, fun hne => absurd rfl hne, eq_of_mem_flag h⟩
  all_goals exact ⟨_, _, _, .nothing, by decide, fun _ => rfl, eq_of_mem_flag h⟩

theorem exists_of_mem_checkLines {file : String} {texts : List (List Char)} {d : Diagnostic}
    {first blank : Nat} (h : d ∈ checkLines file first blank texts) :
    ∃ text ∈ texts, ∃ number code subject, SubjectOf text subject ∧ code ∉ Code.forFunctions ∧
      (code ≠ .blankLines → first ≤ number ∧ number < first + texts.length) ∧
      d = .of file number code subject := by
  induction texts generalizing first blank with
  | nil => cases h
  | cons text more ih =>
      rw [List.length_cons]
      rcases List.mem_append.mp h with h | h
      · obtain ⟨number, code, subject, hsubject, hcode, hline, rfl⟩ := exists_of_mem_checkLine h
        refine ⟨text, List.mem_cons_self, number, code, subject, hsubject, hcode, ?_, rfl⟩
        intro hne
        have hnumber : number = first := hline hne
        omega
      · obtain ⟨line, hmem, number, code, subject, hsubject, hcode, hline, rfl⟩ := ih h
        refine ⟨line, List.mem_cons_of_mem _ hmem, number, code, subject, hsubject, hcode, ?_, rfl⟩
        intro hne
        have hnumber := hline hne
        omega

/-- A class whose name is not written as it should be is found on its line, whatever stands on the
others. -/
theorem mem_checkLines_of_badClassName? {text name : List Char}
    (h : badClassName? text = some name) (file : String) (before behind : List (List Char))
    (first blank : Nat) :
    Diagnostic.of file (first + before.length) .className (some (String.ofList name)) ∈
      checkLines file first blank (before ++ text :: behind) := by
  induction before generalizing first blank with
  | nil =>
      have hrule : Diagnostic.of file first .className (some (String.ofList name)) ∈
          ofRule file blank ⟨first, text⟩ .className := by
        rw [ofRule, h]
        exact List.mem_singleton_self _
      rw [← filter_checkLine] at hrule
      exact List.mem_append_left _ (List.mem_of_mem_filter hrule)
  | cons line before ih =>
      rw [List.length_cons, Nat.add_comm before.length, ← Nat.add_assoc]
      exact List.mem_append_right _ (ih (first + 1) _)

/-- The diagnostics about the lines of a file bear its label. -/
theorem file_of_mem_checkText {file : String} {text : List Char} {d : Diagnostic}
    (h : d ∈ checkText file text) : d.file = file := by
  obtain ⟨line, _, number, code, subject, _, _, _, rfl⟩ := exists_of_mem_checkLines h
  rfl

end LineRules

/-! ## Files -/

/-- The source that is parsed for a text. -/
def normalizedSource (text : String) : Source :=
  Source.ofText (String.ofList (Text.normalizeNewlines text.toList))

/-- What the rules for lines find in a text. -/
def lineFindings (path text : String) : List Diagnostic :=
  LineRules.checkText path (Text.normalizeNewlines text.toList)

/-- What the rules for functions find in a text that is parsed as a tree. -/
def functionFindings (path text : String) (tree : Tree) : List Diagnostic :=
  (FunctionRules.checkFacts .empty
    (fileFacts path (normalizedSource text) tree)).diagnostics.toList

/-- What a file with a given path and text adds to the diagnostics. -/
def contribution (parser : Parser) (path : String) : Except CheckError String → List Diagnostic
  | .error _ => []
  | .ok text =>
    match accepted? parser (normalizedSource text) with
    | none => lineFindings path text
    | some tree => lineFindings path text ++ functionFindings path text tree

/-- How the check of a file with a given path and text ends. -/
def outcome (parser : Parser) (path : String) : Except CheckError String → Except CheckError Unit
  | .error error => .error error
  | .ok text =>
    match accepted? parser (normalizedSource text) with
    | none => .error (.unparsable path)
    | some _ => .ok ()

/-- A check of a text adds the contribution of the text. -/
theorem diagnostics_checkSource (parser : Parser) (path text : String) (now : Findings) :
    (checkSource parser path text now).1.diagnostics.toList =
      now.diagnostics.toList ++ contribution parser path (.ok text) := by
  simp only [checkSource, contribution, lineFindings, functionFindings, normalizedSource]
  cases accepted? parser _ with
  | none => exact Findings.diagnostics_reportAll _ _
  | some tree =>
      simp only
      rw [FunctionRules.diagnostics_checkFacts_eq_append, Findings.diagnostics_reportAll,
        List.append_assoc]

/-- How a check of a text ends hangs on the text alone. -/
theorem checkSource_snd (parser : Parser) (path text : String) (now : Findings) :
    (checkSource parser path text now).2 = outcome parser path (.ok text) := by
  simp only [checkSource, outcome, normalizedSource]
  cases accepted? parser _ <;> rfl

/-- A text is read at a path if its bytes are. -/
theorem readText_eq_ok_iff {read : Reader} {path : Path} {text : String} :
    readText read path = .ok text ↔ read path = .ok (Text.bytes text) := by
  rw [readText]
  cases read path with
  | error cause => simp
  | ok bytes =>
      rw [Except.ok.injEq, ← decode?_eq_some_iff]
      simp only
      cases decode? bytes <;> simp

/-- A check of a file adds the contribution of the file. -/
theorem diagnostics_checkFile (parser : Parser) (read : Reader) (path : Path)
    (now : Findings) :
    (checkFile parser read path now).1.diagnostics.toList =
      now.diagnostics.toList ++ contribution parser path.label (readText read path) := by
  unfold checkFile
  cases readText read path with
  | error error => simp [contribution]
  | ok text => exact diagnostics_checkSource parser path.label text _

/-- How a check of a file ends hangs on what is read alone. -/
theorem checkFile_snd (parser : Parser) (read : Reader) (path : Path) (now : Findings) :
    (checkFile parser read path now).2 = outcome parser path.label (readText read path) := by
  unfold checkFile
  cases readText read path with
  | error error => rfl
  | ok text => exact checkSource_snd parser path.label text _

/-- What the rules for functions find is said about a function of the text. -/
theorem exists_of_mem_functionFindings {path text : String} {tree : Tree} {d : Diagnostic}
    (h : d ∈ functionFindings path text tree) :
    ∃ f ∈ (fileFacts path (normalizedSource text) tree).functions,
      d ∈ FunctionRules.ofFunction path f := by
  rw [functionFindings, FunctionRules.diagnostics_checkFacts, Findings.diagnostics_empty,
    List.nil_append] at h
  exact List.mem_flatMap.mp h

/-- The diagnostics of a file bear its label. -/
theorem file_of_mem_contribution {parser : Parser} {path : String}
    {text : Except CheckError String} {d : Diagnostic}
    (h : d ∈ contribution parser path text) : d.file = path := by
  cases text with
  | error error => simp [contribution] at h
  | ok text =>
      simp only [contribution] at h
      cases hparse : accepted? parser (normalizedSource text) with
      | none =>
          rw [hparse] at h
          exact LineRules.file_of_mem_checkText h
      | some tree =>
          rw [hparse] at h
          rcases List.mem_append.mp h with h | h
          · exact LineRules.file_of_mem_checkText h
          · obtain ⟨f, -, hf⟩ := exists_of_mem_functionFindings h
            exact FunctionRules.file_of_mem_ofFunction hf

end PythonStyle
