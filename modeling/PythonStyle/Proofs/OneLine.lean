import PythonStyle.Proofs.Contributions
import PythonStyle.Proofs.PlainNames
import PythonStyle.Report.Output

/-!
# One line for each diagnostic

A report shows each diagnostic on a line of its own, unless a message brings a newline along.
Most rules cannot: they speak of keywords, of words of a line and of identifiers.  Only the
name of a parameter with a default need not be an identifier.  It is shown as it is written,
and it may be written on several lines.

Main definitions:

- `judgedFunctions`: the functions of a text whose parameters are judged.

Main results:

- Theorem `LineRules.oneLine_of_mem_checkText`: the rules for lines speak on one line.
- Theorem `FunctionRules.oneLine_ofFunction_iff`: those for functions do, but for the names
  of parameters.
- Theorem `CheckReport.count_newline_toText_iff`: when a report has one line for each
  diagnostic.
- Theorem `checkSource_oneLine_iff`: a check speaks on one line for each diagnostic exactly if
  the names of all parameters that it judges stand on one line.
-/

namespace PythonStyle

/-! ## Messages -/

namespace Code

theorem oneLine_template (c : Code) : OneLine c.template := by
  cases c <;> decide +kernel

/-- A message has a newline only from its subject. -/
theorem oneLine_message {c : Code} {subject : Option String} (h : ∀ s ∈ subject, OneLine s) :
    OneLine (c.message subject) := by
  cases subject with
  | none => exact oneLine_template c
  | some s =>
      have hs : '\n' ∉ s.toList := h s rfl
      intro hmem
      simp only [message, messageAbout, String.toList_ofList] at hmem
      rcases Text.mem_of_mem_replaceAll hmem with hmem | hmem
      · exact hs hmem
      · rcases Text.mem_of_mem_replaceAll hmem with hmem | hmem
        · exact hs hmem
        · exact oneLine_template c hmem

theorem oneLine_message_argumentName {name : String} :
    OneLine (argumentName.message (some name)) ↔ OneLine name := by
  have hbefore : OneLine "Argument name " := by decide
  have hbehind : OneLine " should be written in snake_case" := by decide
  simp [message_argumentName, hbefore, hbehind]

end Code

/-! ## Rules for lines -/

namespace LineRules

theorem oneLine_of_spacedKeyword? {text : List Char} {keyword : String}
    (h : spacedKeyword? text = some keyword) : OneLine keyword := by
  have hkeywords : ∀ k ∈ keywords, OneLine k := by decide
  induction text with
  | nil => cases h
  | cons c text ih =>
      rw [spacedKeyword?, Option.or_eq_some_iff] at h
      rcases h with h | ⟨_, h⟩
      · exact ih h
      · exact hkeywords keyword (List.mem_of_find?_eq_some h)

theorem newline_not_mem_badClassName? {text name : List Char}
    (h : badClassName? text = some name) : '\n' ∉ name := by
  unfold badClassName? at h
  split at h
  · exact Naming.newline_not_mem_lowercaseClassName? h
  · cases h

theorem newline_not_mem_badFunctionName? {text name : List Char}
    (h : badFunctionName? text = some name) : '\n' ∉ name := by
  unfold badFunctionName? at h
  split at h
  · cases h
  · exact Naming.newline_not_mem_uppercaseFunctionName? h

/-- What the rules for lines speak of stands on one line. -/
theorem SubjectOf.oneLine {text : List Char} {subject : Option String}
    (h : SubjectOf text subject) : ∀ s ∈ subject, OneLine s := by
  cases h with
  | nothing => exact fun s hs => nomatch hs
  | keyword h => exact fun s hs => Option.some.inj hs ▸ oneLine_of_spacedKeyword? h
  | className h =>
      exact fun s hs => Option.some.inj hs ▸ oneLine_ofList.mpr (newline_not_mem_badClassName? h)
  | functionName h =>
      exact fun s hs =>
        Option.some.inj hs ▸ oneLine_ofList.mpr (newline_not_mem_badFunctionName? h)

/-- The rules for lines speak on one line. -/
theorem oneLine_of_mem_checkText {file : String} {text : List Char} {d : Diagnostic}
    (h : d ∈ checkText file text) : OneLine d.message := by
  obtain ⟨line, _, number, code, subject, hsubject, _, _, rfl⟩ := exists_of_mem_checkLines h
  exact Code.oneLine_message hsubject.oneLine

end LineRules

/-! ## Rules for functions -/

namespace FunctionRules

/-- A name on several lines is never in snake case, and what is said about it stands on
several lines. -/
theorem exists_mem_ofParameter (file : String) {p : Parameter} (h : ¬ OneLine p.name) :
    ∃ d ∈ ofParameter file p, ¬ OneLine d.message := by
  have hsnake : ¬ Naming.isSnakeCase p.name.toList :=
    fun hsnake => h (Naming.oneLine_of_isSnakeCase hsnake)
  refine ⟨.of file p.line .argumentName (some p.name), ?_, ?_⟩
  · rw [ofParameter, if_neg hsnake]
    exact List.mem_singleton_self _
  · exact fun hmessage => h (Code.oneLine_message_argumentName.mp hmessage)

/-- If the targets of its assignments stand on one line each, all that is said about a
function stands on one line exactly if the names of its parameters do. -/
theorem oneLine_ofFunction_iff (file : String) {f : Function}
    (h : ∀ a ∈ f.assignments, ∀ t, .ok t ∈ a.targets → OneLine t.dotted) :
    (∀ d ∈ ofFunction file f, OneLine d.message) ↔ ∀ p ∈ f.params, OneLine p.name := by
  constructor
  · intro hall p hp
    by_contra hname
    obtain ⟨d, hd, hmessage⟩ := exists_mem_ofParameter file hname
    refine hmessage (hall d ?_)
    exact List.mem_append_left _ (List.mem_append_left _ (List.mem_flatMap_of_mem hp hd))
  · intro hparams d hd
    obtain ⟨line, code, subject, rfl, hsubject⟩ := exists_of_mem_ofFunction hd
    refine Code.oneLine_message fun s hs => ?_
    rcases hsubject with rfl | ⟨p, hp, rfl⟩ | ⟨a, ha, t, ht, rfl⟩
    · cases hs
    · exact Option.some.inj hs ▸ hparams p hp
    · exact Option.some.inj hs ▸ h a ha t ht

end FunctionRules

/-! ## Reports -/

namespace CheckReport

theorem oneLine_toString (n : Nat) : OneLine (toString n) := by
  rw [Nat.toString_eq_repr, Nat.repr, oneLine_ofList]
  intro h
  have hdigit : '\n'.isDigit := Nat.isDigit_of_mem_toDigits (by decide) (by decide) h
  cases hdigit

/-- The line of a diagnostic has a newline only from its file or its message. -/
theorem oneLine_render_iff (d : Diagnostic) :
    OneLine d.render ↔ OneLine d.file ∧ OneLine d.message := by
  have hline : OneLine ": Line " := by decide
  have hcolon : OneLine ": " := by decide
  have hspace : OneLine " " := by decide
  have hcode : OneLine d.code.text := by cases d.code <;> decide
  simp only [Diagnostic.render, oneLine_append, hline, hcolon, hspace, hcode,
    oneLine_toString, and_true]

/-- Each line ends with a newline, and those in the lines come on top. -/
theorem count_newline_join (lines : List String) :
    (String.join (lines.map asLine)).toList.count '\n' =
      lines.length + (lines.flatMap String.toList).count '\n' := by
  induction lines with
  | nil => rfl
  | cons line lines ih =>
      have hline : (asLine line).toList.count '\n' = line.toList.count '\n' + 1 := by
        simp [asLine]
      rw [List.map_cons, String.join_cons, String.toList_append, List.count_append, ih, hline,
        List.length_cons, List.flatMap_cons, List.count_append]
      omega

/-- A report as text has as many newlines as diagnostics exactly if the line of each
diagnostic is one line. -/
theorem count_newline_toText_iff (r : CheckReport) :
    r.toText.toList.count '\n' = r.diagnostics.length ↔
      ∀ d ∈ r.diagnostics, OneLine d.render := by
  rw [toText, count_newline_join, lines, List.length_map, Nat.add_eq_left, List.count_eq_zero]
  simp [OneLine]

end CheckReport

/-! ## Checks -/

/-- The functions of a text that are judged: none if the text is no program. -/
def judgedFunctions (parser : Parser) (text : String) : List Function :=
  match accepted? parser (normalizedSource text) with
  | none => []
  | some root => (functionNodes root).map (functionFacts (normalizedSource text))

theorem contribution_eq_append (parser : Parser) (path text : String) :
    contribution parser path (.ok text) =
      lineFindings path text ++
        (judgedFunctions parser text).flatMap (FunctionRules.ofFunction path) := by
  cases haccepted : accepted? parser (normalizedSource text) with
  | none => simp [contribution, judgedFunctions, haccepted]
  | some root =>
      simp [contribution, judgedFunctions, haccepted, functionFindings,
        FunctionRules.diagnostics_checkFacts, fileFacts]

/-- An accepted tree is the tree of the parser. -/
theorem parser_eq_of_accepted? {parser : Parser} {s : Source} {root : Tree}
    (h : accepted? parser s = some root) : parser s = some root := by
  obtain ⟨t, ht, h⟩ := Option.bind_eq_some_iff.mp h
  split at h
  · cases h
  · rw [ht, Option.some.inj h]

/-- The functions that are judged stand in the tree of the parser. -/
theorem exists_of_mem_judgedFunctions {parser : Parser} {text : String} {f : Function}
    (h : f ∈ judgedFunctions parser text) :
    ∃ root, parser (normalizedSource text) = some root ∧
      ∃ t ∈ functionNodes root, f = functionFacts (normalizedSource text) t := by
  unfold judgedFunctions at h
  split at h
  · cases h
  · next root hroot =>
      obtain ⟨t, ht, rfl⟩ := List.mem_map.mp h
      exact ⟨root, parser_eq_of_accepted? hroot, t, ht, rfl⟩

section Checks

variable (parser : Parser) (text : String)
  (hplain : ∀ root, parser (normalizedSource text) = some root →
    PlainNames (normalizedSource text) root)

include hplain

/-- What is found in a text stands on one line exactly if the names of all parameters that
are judged do. -/
theorem oneLine_contribution_iff (path : String) :
    (∀ d ∈ contribution parser path (.ok text), OneLine d.message) ↔
      ∀ f ∈ judgedFunctions parser text, ∀ p ∈ f.params, OneLine p.name := by
  have hfunction (f : Function) (hf : f ∈ judgedFunctions parser text) :
      (∀ d ∈ FunctionRules.ofFunction path f, OneLine d.message) ↔
        ∀ p ∈ f.params, OneLine p.name := by
    obtain ⟨root, hroot, t, ht, rfl⟩ := exists_of_mem_judgedFunctions hf
    have ht := mem_preorder_of_mem_functionNodes ht
    exact FunctionRules.oneLine_ofFunction_iff path ((hplain root hroot).oneLine_functionFacts ht)
  rw [contribution_eq_append]
  constructor
  · intro h f hf
    refine (hfunction f hf).mp fun d hd => h d (List.mem_append_right _ ?_)
    exact List.mem_flatMap_of_mem hf hd
  · intro h d hd
    rcases List.mem_append.mp hd with hd | hd
    · exact LineRules.oneLine_of_mem_checkText hd
    · obtain ⟨f, hf, hd⟩ := List.mem_flatMap.mp hd
      exact (hfunction f hf).mpr (h f hf) d hd

/-- All messages about a text stand on one line if, in its tree, parameters with defaults have
identifiers for names. -/
theorem oneLine_of_mem_contribution (path : String)
    (hdefaults : ∀ root, parser (normalizedSource text) = some root → PlainDefaults root) :
    ∀ d ∈ contribution parser path (.ok text), OneLine d.message := by
  rw [oneLine_contribution_iff parser text hplain]
  intro f hf
  obtain ⟨root, hroot, t, ht, rfl⟩ := exists_of_mem_judgedFunctions hf
  have ht := mem_preorder_of_mem_functionNodes ht
  exact oneLine_of_plainDefaults (hplain root hroot) (hdefaults root hroot) ht

/-- A check adds messages that stand on one line each exactly if the names of all parameters
that it judges do, and just then a report on what it adds has one line for each
diagnostic. -/
theorem checkSource_oneLine_iff {path : String} (hpath : OneLine path) (now : Findings) :
    ∃ added, (checkSource parser path text now).1.diagnostics.toList =
        now.diagnostics.toList ++ added ∧
      ((∀ d ∈ added, OneLine d.message) ↔
        ∀ f ∈ judgedFunctions parser text, ∀ p ∈ f.params, OneLine p.name) ∧
      ∀ r : CheckReport, r.diagnostics.Perm added →
        (r.toText.toList.count '\n' = added.length ↔
          ∀ f ∈ judgedFunctions parser text, ∀ p ∈ f.params, OneLine p.name) := by
  refine ⟨contribution parser path (.ok text), diagnostics_checkSource parser path text now,
    oneLine_contribution_iff parser text hplain path, fun r hr => ?_⟩
  rw [← hr.length_eq, r.count_newline_toText_iff,
    ← oneLine_contribution_iff parser text hplain path]
  constructor
  · intro h d hd
    exact ((CheckReport.oneLine_render_iff d).mp (h d (hr.mem_iff.mpr hd))).2
  · intro h d hd
    have hd := hr.mem_iff.mp hd
    have hfile : OneLine d.file := (file_of_mem_contribution hd).symm ▸ hpath
    exact (CheckReport.oneLine_render_iff d).mpr ⟨hfile, h d hd⟩

end Checks

/-- A function with a pair for a parameter, written on two lines. -/
def pairText : String := "def f((a,\n    b)=1):\n    pass\n"

/-- The tree of `pairText`. -/
def pairTree : Tree :=
  .node "module" true none 0 29 [
    .node "function_definition" true none 0 29 [
      .node "def" false none 0 3 [],
      .node "identifier" true (some "name") 4 5 [],
      .node "parameters" true (some "parameters") 5 19 [
        .node "(" false none 5 6 [],
        .node "default_parameter" true none 6 18 [
          .node "tuple_pattern" true (some "name") 6 16 [
            .node "(" false none 6 7 [],
            .node "identifier" true none 7 8 [],
            .node "," false none 8 9 [],
            .node "identifier" true none 14 15 [],
            .node ")" false none 15 16 []],
          .node "=" false none 16 17 [],
          .node "integer" true (some "value") 17 18 []],
        .node ")" false none 18 19 []],
      .node ":" false none 19 20 [],
      .node "block" true (some "body") 25 29 [
        .node "pass_statement" true none 25 29 [
          .node "pass" false none 25 29 []]]]]

theorem normalizedSource_pairText : normalizedSource pairText = Source.ofText pairText := by
  have hlist : Text.normalizeNewlines pairText.toList = pairText.toList := by decide +kernel
  rw [normalizedSource, hlist, String.ofList_toList]

theorem plainNames_pairTree : PlainNames (Source.ofText pairText) pairTree where
  identifier := by decide +kernel
  attributeName := by decide +kernel

theorem accepted?_pairTree :
    accepted? (fun _ => some pairTree) (Source.ofText pairText) = some pairTree := by
  have hconstruct : rejectedConstruct pairTree = false := by decide +kernel
  have hfound : ((pairTree.cursors.filter startsLogicalLine).filterMap fun c =>
      rowIfFirst? (Source.ofText pairText) (Source.ofText pairText).rows c.focus) = [0, 2] := by
    decide +kernel
  have hrows : logicalRows (Source.ofText pairText) pairTree = [0, 2] := by
    rw [logicalRows, hfound, List.mergeSort_of_pairwise (by decide)]
    rfl
  have htabs : ambiguousTabs (Source.ofText pairText) pairTree = false := by
    rw [ambiguousTabs, logicalColumns, hrows]
    decide +kernel
  simp [accepted?, hconstruct, htabs]

/-- The pair is judged as a parameter whose name has two lines. -/
theorem twoLines_pairTree : ∃ f ∈ judgedFunctions (fun _ => some pairTree) pairText,
    ∃ p ∈ f.params, ¬ OneLine p.name := by
  rw [judgedFunctions, normalizedSource_pairText, accepted?_pairTree]
  decide +kernel

/-- Identifiers stand on one line in the tree of the pair, and yet the message about it has two
lines, so that no report on it has one line for each diagnostic. -/
theorem checkSource_oneLine_iff_pair :
    PlainNames (normalizedSource pairText) pairTree ∧ OneLine "a.py" ∧
      ∃ added, (checkSource (fun _ => some pairTree) "a.py" pairText .empty).1.diagnostics.toList =
          [] ++ added ∧
        (¬ ∀ d ∈ added, OneLine d.message) ∧
        ∀ r : CheckReport, r.diagnostics.Perm added →
          r.toText.toList.count '\n' ≠ added.length := by
  have hplain : PlainNames (normalizedSource pairText) pairTree :=
    normalizedSource_pairText ▸ plainNames_pairTree
  have hpath : OneLine "a.py" := by decide
  have htree : ∀ root, some pairTree = some root →
      PlainNames (normalizedSource pairText) root :=
    fun root hroot => Option.some.inj hroot ▸ hplain
  obtain ⟨f, hf, p, hp, hname⟩ := twoLines_pairTree
  obtain ⟨added, hadded, hmessages, hlines⟩ :=
    checkSource_oneLine_iff (fun _ => some pairTree) pairText htree hpath .empty
  refine ⟨hplain, hpath, added, hadded, fun h => ?_, fun r hr h => ?_⟩
  · exact hname (hmessages.mp h f hf p hp)
  · exact hname ((hlines r hr).mp h f hf p hp)

/-- That identifiers stand on one line is not enough for messages on one line. -/
theorem not_forall_oneLine_message :
    ¬ ∀ (parser : Parser) (path text : String) (now : Findings), OneLine path →
      (∀ root, parser (normalizedSource text) = some root →
        PlainNames (normalizedSource text) root) →
      ∃ added, (checkSource parser path text now).1.diagnostics.toList =
          now.diagnostics.toList ++ added ∧
        ∀ d ∈ added, OneLine d.message := by
  intro hall
  have hplain : ∀ root, some pairTree = some root →
      PlainNames (normalizedSource pairText) root := by
    intro root hroot
    rw [← Option.some.inj hroot, normalizedSource_pairText]
    exact plainNames_pairTree
  obtain ⟨added, hadded, h⟩ :=
    hall (fun _ => some pairTree) "a.py" pairText .empty (by decide) hplain
  rw [diagnostics_checkSource] at hadded
  rw [← List.append_cancel_left hadded, oneLine_contribution_iff _ _ hplain] at h
  obtain ⟨f, hf, p, hp, hname⟩ := twoLines_pairTree
  exact hname (h f hf p hp)

end PythonStyle
