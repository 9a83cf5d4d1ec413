import PythonStyle.Proofs.BlankLines
import PythonStyle.Proofs.Contributions
import PythonStyle.Proofs.FunctionNames
import PythonStyle.Proofs.LineSearches
import PythonStyle.Proofs.Sorting

/-!
# The order of a scan

The lines of a text are checked one after another, each by all rules in the order of their codes.
The diagnostics therefore come in the order of a report, but for those about blank lines, which are
for the line behind.  This module says how far the order goes, and that no two diagnostics of a text
share line and code, so that they may be sorted in any way.

Main definitions:

- `Code.forLines`: the rules for lines, in the order in which they are applied.
- `Diagnostic.Before`: the order by line and code.

Main results:

- Theorem `map_code_checkLine`: a line has one diagnostic of each rule at most, in order.
- Theorem `line_of_mem_checkLine`: the lines that these are for.
- Theorem `code_of_mem_checkLine`: what may be reported of a blank line.
- Theorem `pairwise_checkLines`: apart from blank lines, a text is reported in order.
- Theorem `checkText_ordered`: all of these, and what they mean for sorting.
-/

namespace PythonStyle

/-- The rules for lines, in the order in which they are applied. -/
def Code.forLines : List Code :=
  [lineLength, indentation, semicolon, commentSpacing, openTask, blankLines, keywordSpacing,
    className, functionName]

theorem Code.pairwise_forLines : Code.forLines.Pairwise fun c d => c.index < d.index := by decide

/-- Whether a diagnostic is for an earlier line than another, or for the same line and by an earlier
rule. -/
def Diagnostic.Before (d e : Diagnostic) : Prop :=
  d.line < e.line ∨ d.line = e.line ∧ d.code.index < e.code.index

namespace LineRules

open Text

/-! ## One line -/

theorem map_code_flag (file : String) (number : Nat) (code : Code) (broken : Bool) :
    ((flag file number code broken).map Diagnostic.code).Sublist [code] := by
  cases broken with
  | false => exact List.nil_sublist _
  | true => exact List.Sublist.refl _

theorem map_code_flagName (file : String) (number : Nat) (code : Code) (subject : Option String) :
    ((flagName file number code subject).map Diagnostic.code).Sublist [code] := by
  cases subject with
  | none => exact List.nil_sublist _
  | some s => exact List.Sublist.refl _

/-- Each rule reports a line once at most, in the order of the rules. -/
theorem map_code_checkLine (file : String) (blank : Nat) (l : Line) :
    ((checkLine file blank l).1.map Diagnostic.code).Sublist Code.forLines := by
  have hflag (number : Nat) := map_code_flag file number
  have hname := map_code_flagName file l.number
  have hrules : Code.forLines = [Code.lineLength] ++ [Code.indentation] ++ [Code.semicolon] ++
      [Code.commentSpacing] ++ [Code.openTask] ++ [Code.blankLines] ++ [Code.keywordSpacing] ++
      [Code.className] ++ [Code.functionName] := rfl
  simp only [hrules, checkLine, List.map_append]
  apply List.Sublist.append _ (hname _ _)
  apply List.Sublist.append _ (hname _ _)
  apply List.Sublist.append _ (hname _ _)
  apply List.Sublist.append _ (hflag _ _ _)
  apply List.Sublist.append _ (hflag _ _ _)
  apply List.Sublist.append _ (hflag _ _ _)
  apply List.Sublist.append _ (hflag _ _ _)
  exact List.Sublist.append (hflag _ _ _) (hflag _ _ _)

/-- The diagnostics of a line are in the order of their codes. -/
theorem pairwise_checkLine (file : String) (blank : Nat) (l : Line) :
    (checkLine file blank l).1.Pairwise fun d e => d.code.index < e.code.index := by
  have hcodes := Code.pairwise_forLines.sublist (map_code_checkLine file blank l)
  rwa [List.pairwise_map] at hcodes

/-- What is reported of a line is for the line, but for too many blank lines, which are reported for
the line behind. -/
theorem line_of_mem_checkLine {file : String} {blank : Nat} {l : Line} {d : Diagnostic}
    (h : d ∈ (checkLine file blank l).1) :
    d.line = if d.code = .blankLines then l.number + 1 else l.number := by
  by_cases hcode : d.code = .blankLines
  · have hreport : d ∈ (checkLine file blank l).1.filter isBlankReport :=
      List.mem_filter.mpr ⟨h, beq_iff_eq.mpr hcode⟩
    rw [filter_checkLine_blankLines] at hreport
    rw [if_pos hcode, eq_of_mem_flag hreport]
    rfl
  · obtain ⟨number, code, subject, -, -, hnumber, rfl⟩ := exists_of_mem_checkLine h
    rw [if_neg hcode]
    exact hnumber hcode

/-! ## Blank lines -/

section Blank

variable {text : List Char}

theorem not_mem_of_isBlankText (h : isBlankText text = true) {c : Char} (hc : isBlank c = false) :
    c ∉ text := by
  intro hmem
  rw [List.all_eq_true.mp h c hmem] at hc
  cases hc

/-- The first line of a blank text is blank. -/
theorem isBlankText_firstLine (h : isBlankText text = true) :
    isBlankText (firstLine text) = true :=
  List.all_eq_true.mpr fun c hc => List.all_eq_true.mp h c ((prefix_firstLine text).subset hc)

theorem hasSemicolon_of_isBlankText (h : isBlankText text = true) : hasSemicolon text = false := by
  have hnone : ';' ∉ firstLine text := not_mem_of_isBlankText (isBlankText_firstLine h) (by decide)
  rw [← Bool.not_eq_true, hasSemicolon_iff]
  rintro (⟨before, inside, behind, hline⟩ | ⟨spaces, word, behind, hline, -⟩)
  · exact hnone (by simp [hline])
  · exact hnone (by simp [hline])

theorem hasCrowdedComment_of_isBlankText (h : isBlankText text = true) :
    hasCrowdedComment text = false := by
  rw [← Bool.not_eq_true, hasCrowdedComment_iff]
  rintro ⟨before, c, behind, hline, hc⟩
  exact not_mem_of_isBlankText (isBlankText_firstLine h) hc (by simp [hline])

theorem hasTask_of_isBlankText (h : isBlankText text = true) : hasTask text = false := by
  have hnone : '#' ∉ firstLine text := not_mem_of_isBlankText (isBlankText_firstLine h) (by decide)
  rw [← Bool.not_eq_true, hasTask_iff]
  rintro ⟨before, inside, word, behind, hline, -⟩
  exact hnone (by simp [hline])

theorem spacedKeyword?_of_isBlankText (h : isBlankText text = true) :
    spacedKeyword? text = none := by
  rw [spacedKeyword?_eq_none_iff]
  rintro p keyword ⟨hkeyword, behind, hline⟩
  have hstart : ∀ c ∈ keyword.toList, c ∈ text := by
    intro c hc
    apply List.mem_of_mem_drop (i := p)
    rw [hline]
    exact List.mem_append_left _ hc
  rcases hkeyword with rfl | rfl
  · exact not_mem_of_isBlankText h (by decide) (hstart 'c' (by decide))
  · exact not_mem_of_isBlankText h (by decide) (hstart 'd' (by decide))

theorem badClassName?_of_isBlankText (h : isBlankText text = true) : badClassName? text = none := by
  have hnone : 'c' ∉ text := not_mem_of_isBlankText h (by decide)
  rw [badClassName?, if_neg]
  intro hprefix
  exact hnone ((List.isPrefixOf_iff_prefix.mp hprefix).subset (by decide))

theorem badFunctionName?_of_isBlankText (h : isBlankText text = true) :
    badFunctionName? text = none := by
  have hnone : 'd' ∉ text := not_mem_of_isBlankText h (by decide)
  rw [Option.eq_none_iff_forall_ne_some]
  intro name hname
  obtain ⟨⟨q, p, -, ⟨c, rest, hline, -⟩, -⟩, -⟩ := badFunctionName?_eq_some_iff.mp hname
  have hmem : 'd' ∈ firstLine (content text) := by
    apply List.mem_of_mem_drop (i := p)
    rw [hline]
    exact List.mem_append_left _ (by decide)
  exact hnone ((prefix_content text).subset ((prefix_firstLine _).subset hmem))

end Blank

/-- Of a blank line nothing is reported but its length, its indentation and that there are too many
of its kind. -/
theorem code_of_mem_checkLine {file : String} {blank : Nat} {l : Line} (hblank : l.isBlank = true)
    {d : Diagnostic} (h : d ∈ (checkLine file blank l).1) :
    d.code ∈ [Code.lineLength, .indentation, .blankLines] := by
  have htext : isBlankText l.text = true := hblank
  simp only [checkLine, hasSemicolon_of_isBlankText htext, hasCrowdedComment_of_isBlankText htext,
    hasTask_of_isBlankText htext, spacedKeyword?_of_isBlankText (isBlankText_firstLine htext),
    badClassName?_of_isBlankText htext, badFunctionName?_of_isBlankText htext] at h
  simp only [flag, flagName, Bool.false_eq_true, if_false, Option.map_none, Option.toList_none,
    List.map_nil, List.append_nil, List.mem_append] at h
  rcases h with (h | h) | h <;>
    · rw [eq_of_mem_flag h]
      simp [Diagnostic.of]

/-! ## All lines -/

/-- Apart from the reports on blank lines, the diagnostics of lines are in order. -/
theorem pairwise_checkLines (file : String) (number blank : Nat) (texts : List (List Char)) :
    ((checkLines file number blank texts).filter fun d => !isBlankReport d).Pairwise
      Diagnostic.Before := by
  induction texts generalizing number blank with
  | nil => exact List.Pairwise.nil
  | cons text more ih =>
      have hcode {d : Diagnostic} (h : (!isBlankReport d) = true) : d.code ≠ .blankLines := by
        simpa [isBlankReport] using h
      have hnumber {d : Diagnostic} (h : d ∈ (checkLine file blank ⟨number, text⟩).1.filter
          fun d => !isBlankReport d) : d.line = number := by
        obtain ⟨hd, hreport⟩ := List.mem_filter.mp h
        rw [line_of_mem_checkLine hd, if_neg (hcode hreport)]
      rw [checkLines, List.filter_append, List.pairwise_append]
      refine ⟨?_, ih _ _, ?_⟩
      · apply ((pairwise_checkLine file blank ⟨number, text⟩).filter _).imp_of_mem
        intro d e hd he hindex
        right
        exact ⟨(hnumber hd).trans (hnumber he).symm, hindex⟩
      · intro d hd e he
        left
        obtain ⟨he, hreport⟩ := List.mem_filter.mp he
        obtain ⟨_, -, line, code, subject, -, -, hline, rfl⟩ := exists_of_mem_checkLines he
        have hlater : number + 1 ≤ line := (hline (hcode hreport)).1
        rw [hnumber hd]
        exact hlater

/-- The reports on blank lines are in order. -/
theorem pairwise_blankReports (file : String) (text : List Char) :
    ((checkText file text).filter isBlankReport).Pairwise fun d e => d.line < e.line := by
  rw [filter_checkText_blankLines, List.pairwise_map]
  apply List.Pairwise.imp _ (List.Pairwise.filter _ List.pairwise_lt_range')
  intro i j hij
  exact Nat.succ_lt_succ hij

/-- No two diagnostics of a text are for the same line and by the same rule. -/
theorem nodup_checkText (file : String) (text : List Char) :
    ((checkText file text).map fun d => (d.line, d.code)).Nodup := by
  have hperm := List.filter_append_perm isBlankReport (checkText file text)
  rw [← (hperm.map fun d => (d.line, d.code)).nodup_iff, List.map_append, List.nodup_append,
    List.nodup_iff_pairwise_ne, List.nodup_iff_pairwise_ne, List.pairwise_map, List.pairwise_map]
  refine ⟨?_, ?_, ?_⟩
  · apply (pairwise_blankReports file text).imp
    intro d e hline hkey
    exact Nat.ne_of_lt hline (Prod.ext_iff.mp hkey).1
  · apply (pairwise_checkLines file 1 0 (Text.lines text)).imp
    intro d e hbefore hkey
    obtain ⟨hline, hcode⟩ := Prod.ext_iff.mp hkey
    rcases hbefore with hbefore | ⟨-, hbefore⟩
    · exact Nat.ne_of_lt hbefore hline
    · exact Nat.ne_of_lt hbefore (congrArg Code.index hcode)
  · -- A report on blank lines shares its code with no other diagnostic.
    intro a ha b hb hab
    obtain ⟨d, hd, rfl⟩ := List.mem_map.mp ha
    obtain ⟨e, he, rfl⟩ := List.mem_map.mp hb
    have hcode : d.code = e.code := (Prod.ext_iff.mp hab).2
    have hsame : isBlankReport d = isBlankReport e := by
      rw [isBlankReport, isBlankReport, hcode]
    have hblank : isBlankReport d = true := (List.mem_filter.mp hd).2
    have hother : (!isBlankReport e) = true := (List.mem_filter.mp he).2
    rw [← hsame, hblank] at hother
    cases hother

/-- The diagnostics of a text, as they are found.  Each line has one of each rule at most, in the
order of the rules and for its own number; one about blank lines is for the next, and a blank line
has none but this, its length and its indentation.  In the whole text those about blank lines are
ordered by line and all others by line and code, so that none share both, and there is but one way
to sort them. -/
theorem checkText_ordered (file : String) :
    (∀ blank l,
      (checkLine file blank l).1.Pairwise (fun d e => d.code.index < e.code.index) ∧
        (∀ d ∈ (checkLine file blank l).1,
          d.line = if d.code = .blankLines then l.number + 1 else l.number) ∧
        (l.isBlank = true → ∀ d ∈ (checkLine file blank l).1,
          d.code ∈ [Code.lineLength, .indentation, .blankLines])) ∧
      ∀ text,
        ((checkText file text).filter fun d => !isBlankReport d).Pairwise Diagnostic.Before ∧
          ((checkText file text).filter isBlankReport).Pairwise (fun d e => d.line < e.line) ∧
          ((checkText file text).map fun d => (d.line, d.code)).Nodup ∧
          ∀ sorted, sorted.Perm (checkText file text) ∧
              sorted.Pairwise (fun d e => (d.order e).isLE = true) ↔
            sorted = Diagnostic.sort (checkText file text) := by
  refine ⟨fun blank l => ⟨pairwise_checkLine file blank l, fun d => line_of_mem_checkLine,
    fun hblank d => code_of_mem_checkLine hblank⟩, fun text => ⟨pairwise_checkLines file 1 0 _,
    pairwise_blankReports file text, nodup_checkText file text, fun sorted => ?_⟩⟩
  apply Diagnostic.eq_sort_iff
  apply (List.pairwise_map.mp (nodup_checkText file text)).imp
  intro d e hkey
  rw [← Bool.not_eq_true, Diagnostic.sameKey_iff]
  rintro ⟨-, hline, hcode⟩
  exact hkey (Prod.ext hline hcode)

/-- A long blank line behind two others breaks as many rules as a blank line may. -/
theorem checkText_ordered_blank :
    (Line.mk 3 (List.replicate 82 ' ')).isBlank = true ∧
      (∀ d ∈ (checkLine "a.py" 2 ⟨3, List.replicate 82 ' '⟩).1,
        d.code ∈ [Code.lineLength, .indentation, .blankLines]) ∧
      (checkLine "a.py" 2 ⟨3, List.replicate 82 ' '⟩).1.length = 3 := by
  have hblank : (Line.mk 3 (List.replicate 82 ' ')).isBlank = true := by decide
  refine ⟨hblank, ((checkText_ordered "a.py").1 2 _).2.2 hblank, ?_⟩
  decide +kernel

end LineRules
end PythonStyle
