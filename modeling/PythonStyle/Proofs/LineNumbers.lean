import PythonStyle.Proofs.BlankLines
import PythonStyle.Proofs.OneLine
import PythonStyle.Proofs.ParameterSections

/-!
# Numbers of lines

The lines of a text are counted twice: by the rules for lines, which cut the text behind its
newlines, and by the rules for functions, which count the newlines before a node.  Both counts
number the same lines.  Only a report on blank lines may point behind the last line, since it is
for the line behind the blank ones.

Main definitions:

- `Text.FallsIn`: the number of the line in which an offset falls.
- `LineRules.EndsBlank`: the last three lines are blank.
- `FunctionRules.NodeOf`: the node for whose line a diagnostic about a function is.
- `StartsInside`: what is relied on of these nodes.

Main results:

- Theorem `Text.fallsIn_lines`: an offset falls in the line with the number of newlines before it.
- Theorem `LineRules.line_of_mem_checkText`: the numbers that the rules for lines give.
- Theorem `FunctionRules.exists_nodeOf`: the rules for functions give the lines of nodes.
- Theorem `checkSource_lineNumbers`: the numbers of all diagnostics of a check.
-/

namespace PythonStyle

/-! ## Offsets and lines -/

namespace Text

/-- Whether an offset falls in the line with a given number, counted from one. -/
def FallsIn (texts : List (List Char)) (offset number : Nat) : Prop :=
  ∃ before line after, texts = before ++ line :: after ∧ number = before.length + 1 ∧
    before.flatten.length ≤ offset ∧ offset < before.flatten.length + line.length

namespace FallsIn

variable {texts : List (List Char)} {offset number : Nat}

/-- The number is that of a line. -/
theorem number_le (h : FallsIn texts offset number) : number ≤ texts.length := by
  obtain ⟨before, line, after, rfl, rfl, -⟩ := h
  rw [List.length_append, List.length_cons]
  omega

/-- The first character of a text falls in its first line. -/
theorem zero {line : List Char} (hline : line ≠ []) : FallsIn (line :: texts) 0 1 :=
  ⟨[], line, texts, rfl, rfl, Nat.le_refl 0, by simpa using List.length_pos_iff.mpr hline⟩

/-- A line in front of the others moves offsets and numbers. -/
theorem newline (h : FallsIn texts offset number) :
    FallsIn (['\n'] :: texts) (offset + 1) (number + 1) := by
  obtain ⟨before, line, after, rfl, rfl, hlow, hhigh⟩ := h
  refine ⟨['\n'] :: before, line, after, rfl, rfl, ?_, ?_⟩ <;>
    · rw [List.flatten_cons, List.length_append, List.length_singleton]
      omega

/-- A character in front of the first line moves offsets only. -/
theorem cons {first : List Char} (h : FallsIn (first :: texts) offset number) (c : Char) :
    FallsIn ((c :: first) :: texts) (offset + 1) number := by
  obtain ⟨before, line, after, htexts, rfl, hlow, hhigh⟩ := h
  cases before with
  | nil =>
      obtain ⟨rfl, rfl⟩ := List.cons.inj htexts
      refine ⟨[], c :: first, texts, rfl, rfl, Nat.zero_le _, ?_⟩
      rw [List.length_cons, ← Nat.add_assoc]
      exact Nat.succ_lt_succ hhigh
  | cons line' before =>
      obtain ⟨rfl, rfl⟩ := List.cons.inj htexts
      refine ⟨(c :: first) :: before, line, after, rfl, rfl, ?_, ?_⟩ <;>
        · rw [List.flatten_cons, List.length_append] at hlow hhigh ⊢
          rw [List.length_cons]
          omega

end FallsIn

/-- An offset falls in the line whose number is that of the newlines before it, counted from
one. -/
theorem fallsIn_lines {text : List Char} {offset : Nat} (h : offset < text.length) :
    FallsIn (lines text) offset ((text.take offset).countP (· == '\n') + 1) := by
  induction text generalizing offset with
  | nil => cases h
  | cons c text ih =>
      by_cases hc : c = '\n'
      · subst hc
        rw [lines, if_pos rfl]
        cases offset with
        | zero => exact .zero (List.cons_ne_nil _ _)
        | succ offset =>
            rw [List.take_succ_cons, List.countP_cons_of_pos rfl]
            exact (ih (Nat.lt_of_succ_lt_succ h)).newline
      · have hcount (chars : List Char) :
            (c :: chars).countP (· == '\n') = chars.countP (· == '\n') :=
          List.countP_cons_of_neg (by simpa using hc)
        rw [lines, if_neg hc]
        cases offset with
        | zero => split <;> exact .zero (List.cons_ne_nil _ _)
        | succ offset =>
            have hrest := ih (Nat.lt_of_succ_lt_succ h)
            rw [List.take_succ_cons, hcount]
            split
            · next hnil =>
                -- An offset inside the rest falls in a line, so the rest has lines.
                rw [hnil] at hrest
                exact absurd hrest.number_le (Nat.not_succ_le_zero _)
            · next line more hlines =>
                rw [hlines] at hrest
                exact hrest.cons c

end Text

/-- The lines of a text after its newlines were made alike. -/
def normalizedLines (text : String) : List (List Char) :=
  Text.lines (Text.normalizeNewlines text.toList)

/-- A node that starts inside a text starts in the line with its number. -/
theorem fallsIn_lineOf {text : String} {t : Tree} (h : t.start < (normalizedSource text).size) :
    Text.FallsIn (normalizedLines text) t.start ((normalizedSource text).lineOf t) := by
  have hsize : (normalizedSource text).size = (Text.normalizeNewlines text.toList).length := by
    rw [Source.size, ← Array.length_toList, normalizedSource, Source.glyphs_ofText,
      List.length_map, String.toList_ofList]
  have hrow : (normalizedSource text).row t.start =
      ((Text.normalizeNewlines text.toList).take t.start).countP (· == '\n') := by
    rw [Source.row_eq, normalizedSource, Source.glyphs_ofText, String.toList_ofList,
      ← List.map_take, List.countP_map]
    rfl
  rw [Source.lineOf, hrow]
  exact Text.fallsIn_lines (hsize ▸ h)

/-! ## Rules for lines -/

namespace LineRules

/-- Whether the last three lines are blank. -/
def EndsBlank (texts : List (List Char)) : Prop :=
  ∃ before run, texts = before ++ run ∧ run.length = 3 ∧ ∀ line ∈ run, isBlankText line = true

/-- If the last line is due for a report, the last three are blank. -/
theorem endsBlank_of_isDue {texts : List (List Char)} (h : isDue texts texts.length = true) :
    EndsBlank texts := by
  obtain ⟨before, hrun⟩ := List.rtakeWhile_suffix isBlankText texts
  have hblank : ∀ line ∈ texts.rtakeWhile isBlankText, isBlankText line = true :=
    fun line hline => List.mem_rtakeWhile_imp hline
  have hlength : 3 ≤ (texts.rtakeWhile isBlankText).length := by
    rw [isDue, List.take_length, Bool.and_eq_true, decide_eq_true_eq, beq_iff_eq, blankRun] at h
    omega
  generalize texts.rtakeWhile isBlankText = run at hrun hblank hlength
  refine ⟨before ++ run.take (run.length - 3), run.drop (run.length - 3), ?_, ?_, ?_⟩
  · rw [List.append_assoc, List.take_append_drop, hrun]
  · rw [List.length_drop]
    omega
  · exact fun line hline => hblank line (List.mem_of_mem_drop hline)

/-- Blank lines are reported for the line behind the last of them. -/
theorem line_of_mem_blankReports {file : String} {text : List Char} {d : Diagnostic}
    (h : d ∈ (checkText file text).filter isBlankReport) :
    ∃ i, d.line = i + 1 ∧ 1 ≤ i ∧ i ≤ (Text.lines text).length ∧
      isDue (Text.lines text) i = true := by
  rw [filter_checkText_blankLines] at h
  obtain ⟨i, hi, rfl⟩ := List.mem_map.mp h
  obtain ⟨hi, hdue⟩ := List.mem_filter.mp hi
  rw [List.mem_range'_1] at hi
  exact ⟨i, rfl, hi.1, by omega, hdue⟩

/-- The rules for lines report lines of the text, or else, behind three blank lines, the line
behind the last. -/
theorem line_of_mem_checkText {file : String} {text : List Char} {d : Diagnostic}
    (h : d ∈ checkText file text) :
    d.code ∉ Code.forFunctions ∧ 1 ≤ d.line ∧
      (d.line ≤ (Text.lines text).length ∨
        d.line = (Text.lines text).length + 1 ∧ d.code = .blankLines ∧
          EndsBlank (Text.lines text)) := by
  obtain ⟨_, -, number, code, subject, -, hcode, hline, rfl⟩ := exists_of_mem_checkLines h
  refine ⟨hcode, ?_⟩
  by_cases hblank : code = .blankLines
  · subst hblank
    obtain ⟨i, hnumber, hlow, hhigh, hdue⟩ :=
      line_of_mem_blankReports (List.mem_filter.mpr ⟨h, rfl⟩)
    rw [hnumber]
    refine ⟨Nat.le_add_left 1 i, ?_⟩
    rcases Nat.lt_or_eq_of_le hhigh with hlt | rfl
    · exact .inl hlt
    · exact .inr ⟨rfl, rfl, endsBlank_of_isDue hdue⟩
  · obtain ⟨hlow, hhigh⟩ := hline hblank
    have hnumber : number ≤ (Text.lines text).length := by omega
    exact ⟨hlow, .inl hnumber⟩

end LineRules

/-! ## Rules for functions -/

namespace FunctionRules

open ParameterList

/-- The node for whose line a diagnostic about a function is: the name of a parameter, a statement
that assigns, or a default without its parentheses. -/
inductive NodeOf (s : Source) (t : Tree) : Code → Option String → Tree → Prop where
  | name {list name : Tree} (hlist : t.child? "parameters" = some list)
      (hname : name ∈ nameNodes (behindSlash (reachable list))) :
      NodeOf s t .argumentName (some (s.textOf name)) name
  | statement {body statement : Tree} {a : Assignment} {target : Target}
      (hbody : t.child? "body" = some body) (hstatement : statement ∈ body.namedChildren)
      (ha : statementAssignment? s statement = some a) (htarget : .ok target ∈ a.targets) :
      NodeOf s t .variableName (some target.dotted) statement
  | default {list value : Tree} (hlist : t.child? "parameters" = some list)
      (hvalue : value ∈ defaultNodes (reachable list)) :
      NodeOf s t .mutableDefault none (unparenthesized value)

/-- What is said about a function is for the line of a node. -/
theorem exists_nodeOf {file : String} {s : Source} {t : Tree} {d : Diagnostic}
    (h : d ∈ ofFunction file (functionFacts s t)) :
    ∃ code subject node, NodeOf s t code subject node ∧
      d = .of file (s.lineOf node) code subject := by
  rcases mem_ofFunction_cases h with ⟨p, hp, rfl⟩ | ⟨a, ha, target, htarget, rfl⟩ | ⟨v, hv, rfl⟩
  · obtain ⟨list, hlist, name, hname, rfl⟩ := mem_params_functionFacts hp
    exact ⟨_, _, name, .name hlist hname, rfl⟩
  · obtain ⟨body, hbody, statement, hstatement, ha⟩ := mem_assignments_functionFacts ha
    have hline : a.line = s.lineOf statement := by
      obtain ⟨_, -, rfl⟩ := statementAssignment?_eq_some ha
      rfl
    exact ⟨_, _, statement, .statement hbody hstatement ha htarget, hline ▸ rfl⟩
  · obtain ⟨list, hlist, value, hvalue, rfl⟩ := mem_defaults_functionFacts hv
    exact ⟨_, _, _, .default hlist hvalue, rfl⟩

/-- The node is one of the tree. -/
theorem NodeOf.mem_preorder {s : Source} {root t node : Tree} {code : Code}
    {subject : Option String} (h : NodeOf s t code subject node) (ht : t ∈ root.preorder) :
    node ∈ root.preorder := by
  cases h with
  | name hlist hname =>
      exact mem_preorder_of_mem_nameNodes (Tree.mem_preorder_of_child? ht hlist) hname
  | statement hbody hstatement =>
      exact Tree.mem_preorder_of_mem_namedChildren (Tree.mem_preorder_of_child? ht hbody) hstatement
  | default hlist hvalue =>
      have hlist := Tree.mem_preorder_of_child? ht hlist
      exact mem_preorder_unparenthesized (mem_preorder_of_mem_defaultNodes hlist hvalue)

end FunctionRules

/-! ## Checks -/

/-- What is relied on of a tree: the nodes for whose lines diagnostics may be start inside the
source. -/
def StartsInside (s : Source) (root : Tree) : Prop :=
  ∀ t ∈ functionNodes root, ∀ code subject node,
    FunctionRules.NodeOf s t code subject node → node.start < s.size

/-- It is enough if all nodes of the tree start inside the source. -/
theorem startsInside_of_preorder {s : Source} {root : Tree}
    (h : ∀ t ∈ root.preorder, t.start < s.size) : StartsInside s root :=
  fun _ ht _ _ node hnode => h node (hnode.mem_preorder (mem_preorder_of_mem_functionNodes ht))

/-- The numbers of the lines of a check.  All of them are those of lines of the text, but for a
report on blank lines, which may be for the line behind the last if the last three are blank.  What
is said about a function is for the line in which a node of the function starts. -/
theorem checkSource_lineNumbers (parser : Parser) (path text : String) (now : Findings)
    (hinside : ∀ root, parser (normalizedSource text) = some root →
      StartsInside (normalizedSource text) root) :
    ∃ added, (checkSource parser path text now).1.diagnostics.toList =
        now.diagnostics.toList ++ added ∧
      ∀ d ∈ added,
        1 ≤ d.line ∧ d.line ≤ (normalizedLines text).length + 1 ∧
          (d.line = (normalizedLines text).length + 1 →
            d.code = .blankLines ∧ LineRules.EndsBlank (normalizedLines text)) ∧
          (d.code ∈ Code.forFunctions →
            d.line ≤ (normalizedLines text).length ∧
              ∃ root, parser (normalizedSource text) = some root ∧ ∃ t ∈ functionNodes root,
                ∃ subject node,
                  FunctionRules.NodeOf (normalizedSource text) t d.code subject node ∧
                    d = .of path d.line d.code subject ∧
                    Text.FallsIn (normalizedLines text) node.start d.line) := by
  refine ⟨contribution parser path (.ok text), diagnostics_checkSource parser path text now,
    fun d hd => ?_⟩
  rw [contribution_eq_append] at hd
  rcases List.mem_append.mp hd with hd | hd
  · obtain ⟨hcode, hlow, hline⟩ := LineRules.line_of_mem_checkText hd
    refine ⟨hlow, ?_, ?_, fun h => absurd h hcode⟩
    · rcases hline with hline | ⟨hline, -⟩
      · exact Nat.le_succ_of_le hline
      · exact hline.le
    · intro hlast
      rcases hline with hline | ⟨-, hblank⟩
      · rw [hlast] at hline
        exact absurd hline (Nat.not_succ_le_self _)
      · exact hblank
  · obtain ⟨f, hf, hd⟩ := List.mem_flatMap.mp hd
    obtain ⟨root, hroot, t, ht, rfl⟩ := exists_of_mem_judgedFunctions hf
    obtain ⟨code, subject, node, hnode, rfl⟩ := FunctionRules.exists_nodeOf hd
    have hfalls := fallsIn_lineOf (hinside root hroot t ht code subject node hnode)
    have hline := hfalls.number_le
    refine ⟨Nat.le_add_left _ _, Nat.le_succ_of_le hline, ?_, fun _ => ⟨hline, ?_⟩⟩
    · intro hlast
      have hlast : (normalizedSource text).lineOf node = (normalizedLines text).length + 1 := hlast
      omega
    · exact ⟨root, hroot, t, ht, subject, node, hnode, rfl, hfalls⟩

/-- The name of the pair is reported, for the line in which it starts. -/
theorem checkSource_lineNumbers_pair :
    (∀ root, some pairTree = some root → StartsInside (normalizedSource pairText) root) ∧
      ∃ d ∈ (checkSource (fun _ => some pairTree) "a.py" pairText .empty).1.diagnostics.toList,
        d.code = .argumentName ∧ d.line ≤ 3 ∧
          ∃ offset, Text.FallsIn (normalizedLines pairText) offset d.line := by
  have hinside : ∀ root, some pairTree = some root →
      StartsInside (normalizedSource pairText) root := by
    intro root hroot
    rw [← Option.some.inj hroot, normalizedSource_pairText]
    exact startsInside_of_preorder (by decide +kernel)
  have hlines : (normalizedLines pairText).length = 3 := by decide +kernel
  have hreported : ∃ d ∈ contribution (fun _ => some pairTree) "a.py" (.ok pairText),
      d.code = .argumentName := by
    rw [contribution_eq_append, judgedFunctions, normalizedSource_pairText, accepted?_pairTree]
    decide +kernel
  obtain ⟨added, hadded, hall⟩ :=
    checkSource_lineNumbers (fun _ => some pairTree) "a.py" pairText .empty hinside
  rw [hadded]
  rw [diagnostics_checkSource] at hadded
  obtain ⟨d, hd, hcode⟩ := hreported
  rw [List.append_cancel_left hadded] at hd
  obtain ⟨-, -, -, hfunctions⟩ := hall d hd
  obtain ⟨hline, root, -, t, -, subject, node, -, -, hfalls⟩ :=
    hfunctions (hcode ▸ by decide)
  exact ⟨hinside, d, List.mem_append_right _ hd, hcode, hlines ▸ hline, node.start, hfalls⟩

end PythonStyle
