import Mathlib.Data.List.DropRight
import PythonStyle.LineRules

/-!
# Blank lines in a row

Every third blank line in a row is reported, for the line behind it.  The rule counts with
a number that never passes two and that starts over at every report; this module gives
both the number and the reports in terms of the lengths of the runs.

Main definitions:

- `blankRun`: the length of the run of blank lines that a list of lines ends with.
- `blanksAfter`: the number that the rule has counted to after some lines.

Main results:

- Theorem `blanksAfter_eq`: the count is the length of the run, modulo three.
- Theorem `filter_checkText_blankLines`: where blank lines are reported in a text.
- Theorem `filter_checkText_run`: the reports about one run.
- Theorem `blankLines_closed_form`: all of these together.
-/

namespace PythonStyle
namespace LineRules

/-- Whether a line is blank, by its text. -/
def isBlankText (text : List Char) : Bool := text.all Text.isBlank

/-- The length of the run of blank lines at the end of a list of lines. -/
def blankRun (texts : List (List Char)) : Nat := (texts.rtakeWhile isBlankText).length

/-- Whether a diagnostic is about blank lines. -/
def isBlankReport (d : Diagnostic) : Bool := d.code == .blankLines

/-- Whether the run that ends with a given number of lines is due for a report. -/
def isDue (texts : List (List Char)) (i : Nat) : Bool :=
  0 < blankRun (texts.take i) && blankRun (texts.take i) % 3 == 0

/-- The report about the run that ends with a given line: it is for the line behind. -/
def blankReport (file : String) (i : Nat) : Diagnostic := .of file (i + 1) .blankLines none

/-! ## Runs -/

theorem blankRun_concat (texts : List (List Char)) (text : List Char) :
    blankRun (texts ++ [text]) = if isBlankText text then blankRun texts + 1 else 0 := by
  unfold blankRun
  rw [List.rtakeWhile_concat]
  split <;> simp

/-- Behind a line that is not blank, a run is as long as it is. -/
theorem blankRun_append {before run : List (List Char)}
    (hbefore : ∀ text ∈ before.getLast?, isBlankText text = false)
    (hrun : ∀ text ∈ run, isBlankText text = true) :
    blankRun (before ++ run) = run.length := by
  induction run using List.reverseRecOn with
  | nil =>
      rw [List.append_nil, List.length_nil]
      cases before using List.reverseRecOn with
      | nil => rfl
      | append_singleton before last =>
          rw [blankRun_concat, hbefore last (by simp)]
          rfl
  | append_singleton run last ih =>
      have hlast : isBlankText last = true := hrun last (by simp)
      have hinit : ∀ text ∈ run, isBlankText text = true :=
        fun text htext => hrun text (List.mem_append_left [last] htext)
      rw [← List.append_assoc, blankRun_concat, if_pos hlast, ih hinit, List.length_append,
        List.length_singleton]

/-! ## The count -/

/-- One line brings the count from the length of the run modulo three to that of the
longer run, and reports when it is a multiple of three. -/
theorem countBlank_blankRun (texts : List (List Char)) (l : Line) :
    countBlank (blankRun texts % 3) l =
      (blankRun (texts ++ [l.text]) % 3,
        0 < blankRun (texts ++ [l.text]) && blankRun (texts ++ [l.text]) % 3 == 0) := by
  have hblank : l.isBlank = isBlankText l.text := rfl
  rw [blankRun_concat, countBlank, hblank]
  by_cases h : isBlankText l.text = true
  · rw [if_pos h, if_pos h, maxBlank]
    split
    · have hmod : (blankRun texts + 1) % 3 = blankRun texts % 3 + 1 := by omega
      simp [hmod]
    · have hmod : (blankRun texts + 1) % 3 = 0 := by omega
      simp [hmod]
  · rw [if_neg h, if_neg h]
    rfl

/-- The count after lines of files were checked, from a fresh start. -/
def blanksAfter (calls : List (String × Line)) : Nat :=
  calls.foldl (fun blank call => (checkLine call.1 blank call.2).2) 0

/-- The count is the length of the run of blank lines, modulo three. -/
theorem blanksAfter_eq (calls : List (String × Line)) :
    blanksAfter calls = blankRun (calls.map fun call => call.2.text) % 3 := by
  induction calls using List.reverseRecOn with
  | nil => rfl
  | append_singleton calls call ih =>
      have hstep : blanksAfter (calls ++ [call]) = (countBlank (blanksAfter calls) call.2).1 := by
        simp [blanksAfter, checkLine]
      rw [hstep, ih, countBlank_blankRun, List.map_append]
      rfl

/-! ## The reports -/

/-- Of the diagnostics of a line, those about blank lines come from the count. -/
theorem filter_checkLine_blankLines (file : String) (blank : Nat) (l : Line) :
    (checkLine file blank l).1.filter isBlankReport =
      flag file (l.number + 1) .blankLines (countBlank blank l).2 :=
  filter_checkLine file blank l .blankLines

/-- What is reported about blank lines among lines behind others. -/
theorem filter_checkLines_blankLines (file : String) (before more : List (List Char)) :
    (checkLines file (before.length + 1) (blankRun before % 3) more).filter isBlankReport =
      ((List.range' (before.length + 1) more.length).filter (isDue (before ++ more))).map
        (blankReport file) := by
  induction more generalizing before with
  | nil => rfl
  | cons text more ih =>
      have hline : (before ++ text :: more).take (before.length + 1) = before ++ [text] := by
        rw [List.take_append, List.take_of_length_le (by omega)]
        simp
      have hrest : before ++ text :: more = (before ++ [text]) ++ more := by simp
      have hdue : isDue (before ++ text :: more) (before.length + 1) =
          (0 < blankRun (before ++ [text]) && blankRun (before ++ [text]) % 3 == 0) := by
        rw [isDue, hline]
      have hlength : before.length + 1 + 1 = (before ++ [text]).length + 1 := by simp
      rw [checkLines, List.filter_append, filter_checkLine_blankLines]
      simp only [checkLine, countBlank_blankRun]
      rw [hlength, ih (before ++ [text]), ← hrest, List.length_cons, List.range'_succ,
        List.filter_cons, hdue, List.length_append, List.length_singleton]
      split
      · rename_i h
        rw [flag, if_pos h]
        rfl
      · rename_i h
        rw [flag, if_neg h]
        rfl

/-- Blank lines are reported in a text exactly behind each line whose run has a positive
multiple of three lines. -/
theorem filter_checkText_blankLines (file : String) (text : List Char) :
    (checkText file text).filter isBlankReport =
      ((List.range' 1 (Text.lines text).length).filter (isDue (Text.lines text))).map
        (blankReport file) :=
  filter_checkLines_blankLines file [] (Text.lines text)

/-! ## One run -/

/-- Among the lines of a run, every third is due. -/
theorem filter_range'_dvd (m k : Nat) :
    (List.range' (m + 1) k).filter (fun i => (i - m) % 3 == 0) =
      (List.range (k / 3)).map fun j => m + 3 * (j + 1) := by
  induction k with
  | zero => rfl
  | succ k ih =>
      have hlast : m + 1 + k - m = k + 1 := by omega
      rw [List.range'_concat, List.filter_append, ih, Nat.one_mul]
      by_cases h : (k + 1) % 3 = 0
      · have hdiv : (k + 1) / 3 = k / 3 + 1 := by omega
        have hvalue : m + 1 + k = m + 3 * (k / 3 + 1) := by omega
        rw [hdiv, List.range_succ, List.map_append, List.filter_cons_of_pos (by simp [hlast, h])]
        simp [hvalue]
      · have hdiv : (k + 1) / 3 = k / 3 := by omega
        rw [hdiv, List.filter_cons_of_neg (by simp [hlast, h]), List.filter_nil, List.append_nil]

/-- Whether a diagnostic stands in the lines behind the lines of a run, which starts
behind so many lines and is so long. -/
def isBehindRun (before run : Nat) (d : Diagnostic) : Bool :=
  before + 1 < d.line && d.line ≤ before + 1 + run

/-- A report stands behind a run exactly if it is about a line of the run. -/
theorem isBehindRun_blankReport (before run : Nat) (file : String) (i : Nat) :
    isBehindRun before run (blankReport file i) = true ↔ before < i ∧ i ≤ before + run := by
  have hline : (blankReport file i).line = i + 1 := rfl
  rw [isBehindRun, hline, Bool.and_eq_true, decide_eq_true_eq, decide_eq_true_eq]
  omega

/-- In a run that starts behind a line that is not blank, the line with a given place is
due exactly if the place is a multiple of three. -/
theorem isDue_run {before run after : List (List Char)}
    (hbefore : ∀ text ∈ before.getLast?, isBlankText text = false)
    (hrun : ∀ text ∈ run, isBlankText text = true) {i : Nat} (hlow : before.length < i)
    (hhigh : i ≤ before.length + run.length) :
    isDue (before ++ run ++ after) i = ((i - before.length) % 3 == 0) := by
  have htake : (before ++ run ++ after).take i = before ++ run.take (i - before.length) := by
    rw [List.append_assoc, List.take_append, List.take_of_length_le (by omega),
      List.take_append_of_le_length (by omega)]
  have hlength : blankRun ((before ++ run ++ after).take i) = i - before.length := by
    rw [htake, blankRun_append hbefore fun text h => hrun text (List.mem_of_mem_take h),
      List.length_take]
    omega
  have hpos : 0 < i - before.length := by omega
  rw [isDue, hlength]
  simp [hpos]

/-- The lines that are due in a run, and are reported behind it, are every third. -/
theorem filter_isDue_run {before run : List (List Char)} (after : List (List Char))
    (hbefore : ∀ text ∈ before.getLast?, isBlankText text = false)
    (hrun : ∀ text ∈ run, isBlankText text = true) (file : String) :
    (List.range' 1 (before ++ run ++ after).length).filter (fun i =>
        isBehindRun before.length run.length (blankReport file i) &&
          isDue (before ++ run ++ after) i) =
      (List.range (run.length / 3)).map fun j => before.length + 3 * (j + 1) := by
  rw [← filter_range'_dvd, List.length_append, List.length_append, Nat.add_assoc,
    ← List.range'_append_1, ← List.range'_append_1, List.filter_append, List.filter_append]
  have hstart : (List.range' 1 before.length).filter (fun i =>
      isBehindRun before.length run.length (blankReport file i) &&
        isDue (before ++ run ++ after) i) = [] := by
    rw [List.filter_eq_nil_iff]
    intro i hi
    rw [List.mem_range'_1] at hi
    rw [Bool.and_eq_true, isBehindRun_blankReport]
    omega
  have hend : (List.range' (1 + before.length + run.length) after.length).filter (fun i =>
      isBehindRun before.length run.length (blankReport file i) &&
        isDue (before ++ run ++ after) i) = [] := by
    rw [List.filter_eq_nil_iff]
    intro i hi
    rw [List.mem_range'_1] at hi
    rw [Bool.and_eq_true, isBehindRun_blankReport]
    omega
  have hmiddle : (List.range' (1 + before.length) run.length).filter (fun i =>
        isBehindRun before.length run.length (blankReport file i) &&
          isDue (before ++ run ++ after) i) =
      (List.range' (1 + before.length) run.length).filter
        (fun i => (i - before.length) % 3 == 0) := by
    apply List.filter_congr
    intro i hi
    rw [List.mem_range'_1] at hi
    have hbehind : isBehindRun before.length run.length (blankReport file i) = true := by
      rw [isBehindRun_blankReport]
      omega
    rw [hbehind, Bool.true_and, isDue_run hbefore hrun (by omega) (by omega)]
  rw [hstart, hend, hmiddle, List.nil_append, List.append_nil, Nat.add_comm 1]

/-- A run of blank lines is reported once for every three of its lines, for the line
behind them. -/
theorem filter_checkText_run (file : String) {text : List Char}
    {before run after : List (List Char)} (htext : Text.lines text = before ++ run ++ after)
    (hbefore : ∀ text ∈ before.getLast?, isBlankText text = false)
    (hrun : ∀ text ∈ run, isBlankText text = true) :
    ((checkText file text).filter isBlankReport).filter
        (isBehindRun before.length run.length) =
      (List.range (run.length / 3)).map fun j =>
        .of file (before.length + 1 + 3 * (j + 1)) .blankLines none := by
  have hdue := filter_isDue_run after hbefore hrun file
  rw [filter_checkText_blankLines, htext, List.filter_map, List.filter_filter]
  simp only [Function.comp_apply]
  rw [hdue, List.map_map]
  apply List.map_congr_left
  intro j _
  simp only [Function.comp_apply, blankReport]
  have hline : before.length + 3 * (j + 1) + 1 = before.length + 1 + 3 * (j + 1) := by omega
  rw [hline]

/-- The rule for blank lines in closed form.  The count after any calls is the length of
the run of blank lines, modulo three, and so at most two; a text is reported exactly
behind each line whose run has a positive multiple of three lines; and a run that starts
at the first line or behind a line that is not blank, whatever follows it, gets one report
for every three of its lines, three lines further on each time. -/
theorem blankLines_closed_form (file : String) :
    (∀ calls : List (String × Line),
      blanksAfter calls = blankRun (calls.map fun call => call.2.text) % 3 ∧
        blanksAfter calls ≤ 2) ∧
    (∀ text : List Char,
      (checkText file text).filter isBlankReport =
        ((List.range' 1 (Text.lines text).length).filter (isDue (Text.lines text))).map
          fun i => .of file (i + 1) .blankLines none) ∧
    ∀ (text : List Char) (before run after : List (List Char)),
      Text.lines text = before ++ run ++ after →
      (∀ line ∈ before.getLast?, isBlankText line = false) →
      (∀ line ∈ run, isBlankText line = true) →
      ((checkText file text).filter isBlankReport).filter
          (isBehindRun before.length run.length) =
        (List.range (run.length / 3)).map fun j =>
          .of file (before.length + 1 + 3 * (j + 1)) .blankLines none := by
  refine ⟨?_, filter_checkText_blankLines file, ?_⟩
  · intro calls
    have hcount := blanksAfter_eq calls
    exact ⟨hcount, by omega⟩
  · intro text before run after htext hbefore hrun
    exact filter_checkText_run file htext hbefore hrun

end LineRules
end PythonStyle
