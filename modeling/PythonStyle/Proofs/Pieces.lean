import PythonStyle.Proofs.BlankLines

/-!
# Texts checked in pieces

All that the rules for lines carry from one line to the next is the count of blank lines.
A text that is cut behind a newline may therefore be checked in two pieces, unless the cut
goes through a run of blank lines whose count has not come back to zero.

Main definitions:

- `Diagnostic.moved`: a diagnostic that stands so many lines further on.
- `EndsLine`: texts that are made of whole lines.

Main results:

- Theorem `Text.lines_append`: cutting into lines respects a cut behind a newline.
- Theorem `checkLines_moved`: where lines stand in their file shows in the line numbers only.
- Theorem `checkLines_append`: the lines behind others are checked with the count that the
  others leave.
- Theorem `checkText_append`: a text in two pieces is checked like the two pieces.
-/

namespace PythonStyle

/-- A diagnostic that stands so many lines further on. -/
def Diagnostic.moved (n : Nat) (d : Diagnostic) : Diagnostic := { d with line := d.line + n }

/-- Whether a text is made of whole lines: nothing stands behind its last newline. -/
def EndsLine (text : List Char) : Prop := text = [] ∨ text.getLast? = some '\n'

/-- Without its first character, which ends no line by itself, a text still ends its last
line. -/
theorem EndsLine.of_cons {c : Char} {rest : List Char} (h : EndsLine (c :: rest)) :
    EndsLine rest := by
  cases rest with
  | nil => exact .inl rfl
  | cons d more =>
      right
      rcases h with h | h
      · cases h
      · rwa [List.getLast?_cons_cons] at h

/-- A text whose first character is no newline goes on if it ends its last line. -/
theorem EndsLine.rest_ne_nil {c : Char} {rest : List Char} (h : EndsLine (c :: rest))
    (hc : c ≠ '\n') : rest ≠ [] := by
  rintro rfl
  rcases h with h | h
  · cases h
  · exact hc (Option.some.inj h)

/-- The lines of a text behind whole lines are the lines of both. -/
theorem Text.lines_append {first : List Char} (h : EndsLine first) (second : List Char) :
    lines (first ++ second) = lines first ++ lines second := by
  induction first with
  | nil => rfl
  | cons c rest ih =>
      have hrest := ih h.of_cons
      by_cases hc : c = '\n'
      · rw [List.cons_append, lines, if_pos hc, lines, if_pos hc, hrest, List.cons_append]
      · rw [List.cons_append, lines, if_neg hc, lines, if_neg hc, hrest]
        cases hlines : lines rest with
        | nil =>
            have hempty : rest = [] := by
              rw [← flatten_lines rest, hlines, List.flatten_nil]
            exact absurd hempty (h.rest_ne_nil hc)
        | cons line more => rfl

namespace LineRules

/-! ## Line numbers -/

theorem flag_moved (file : String) (number n : Nat) (code : Code) (broken : Bool) :
    flag file (number + n) code broken =
      (flag file number code broken).map (Diagnostic.moved n) := by
  cases broken <;> rfl

theorem flagName_moved (file : String) (number n : Nat) (code : Code)
    (subject : Option String) :
    flagName file (number + n) code subject =
      (flagName file number code subject).map (Diagnostic.moved n) := by
  cases subject <;> rfl

/-- The rules look at the number of a line only to report it. -/
theorem checkLine_moved (file : String) (blank number n : Nat) (text : List Char) :
    checkLine file blank ⟨number + n, text⟩ =
      ((checkLine file blank ⟨number, text⟩).1.map (Diagnostic.moved n),
        (checkLine file blank ⟨number, text⟩).2) := by
  have hcount : countBlank blank ⟨number + n, text⟩ = countBlank blank ⟨number, text⟩ := rfl
  have hbehind : number + n + 1 = number + 1 + n := by omega
  simp only [checkLine, hcount, hbehind, flag_moved, flagName_moved, List.map_append]

/-- Where lines stand in their file shows in the line numbers only. -/
theorem checkLines_moved (file : String) (number n blank : Nat) (texts : List (List Char)) :
    checkLines file (number + n) blank texts =
      (checkLines file number blank texts).map (Diagnostic.moved n) := by
  induction texts generalizing number blank with
  | nil => rfl
  | cons text more ih =>
      have hnext : number + n + 1 = number + 1 + n := by omega
      simp only [checkLines, checkLine_moved, hnext, ih, List.map_append]

/-! ## The count of blank lines at the cut -/

/-- The lines behind others are checked with the count that the others leave. -/
theorem checkLines_append (file : String) (number : Nat) (before first second : List (List Char)) :
    checkLines file number (blankRun before % 3) (first ++ second) =
      checkLines file number (blankRun before % 3) first ++
        checkLines file (number + first.length) (blankRun (before ++ first) % 3) second := by
  induction first generalizing number before with
  | nil => simp [checkLines]
  | cons text more ih =>
      have hcount : (checkLine file (blankRun before % 3) ⟨number, text⟩).2 =
          blankRun (before ++ [text]) % 3 := by
        rw [checkLine, countBlank_blankRun]
      have hnumber : number + (text :: more).length = number + 1 + more.length := by
        rw [List.length_cons]
        omega
      have hbefore : before ++ text :: more = before ++ [text] ++ more := by simp
      rw [List.cons_append, checkLines, checkLines]
      simp only [hcount]
      rw [ih, hnumber, hbefore]
      exact (List.append_assoc _ _ _).symm

/-- In front of a line that is not blank, the count of blank lines does not matter. -/
theorem checkLines_of_not_blank (file : String) (number blank : Nat) {text : List Char}
    (more : List (List Char)) (h : isBlankText text = false) :
    checkLines file number blank (text :: more) = checkLines file number 0 (text :: more) := by
  have hcount : countBlank blank ⟨number, text⟩ = countBlank 0 ⟨number, text⟩ := by
    have hblank : (Line.mk number text).isBlank = false := h
    simp [countBlank, hblank]
  simp only [checkLines, checkLine, hcount]

/-- A text behind whole lines is checked like the two pieces, the second with its lines
numbered on from the first, if the second piece is empty or starts with a line that is not
blank, or if the first ends with a multiple of three blank lines. -/
theorem checkText_append (file : String) {first second : List Char} (hfirst : EndsLine first)
    (hcut : second = [] ∨ (∃ line ∈ (Text.lines second).head?, isBlankText line = false) ∨
      3 ∣ blankRun (Text.lines first)) :
    checkText file (first ++ second) =
      checkText file first ++
        (checkText file second).map (Diagnostic.moved (Text.lines first).length) := by
  have hpieces := checkLines_append file 1 [] (Text.lines first) (Text.lines second)
  have hcount : checkLines file (1 + (Text.lines first).length)
      (blankRun ([] ++ Text.lines first) % 3) (Text.lines second) =
        checkLines file (1 + (Text.lines first).length) 0 (Text.lines second) := by
    rcases hcut with rfl | ⟨line, hline, hblank⟩ | hdvd
    · rfl
    · obtain ⟨more, hmore⟩ := List.head?_eq_some_iff.mp hline
      rw [hmore]
      exact checkLines_of_not_blank file _ _ more hblank
    · rw [List.nil_append, Nat.mod_eq_zero_of_dvd hdvd]
  rw [hcount, checkLines_moved] at hpieces
  rw [checkText, Text.lines_append hfirst]
  exact hpieces

/-- Three blank lines in front of a cut are reported in the first piece, and three behind
it in the second. -/
theorem checkText_append_blank :
    EndsLine "x;\n\n \n\n".toList ∧
      3 ∣ blankRun (Text.lines "x;\n\n \n\n".toList) ∧
      checkText "a.py" ("x;\n\n \n\n".toList ++ "\n\n\n y".toList) =
        checkText "a.py" "x;\n\n \n\n".toList ++
          (checkText "a.py" "\n\n\n y".toList).map
            (Diagnostic.moved (Text.lines "x;\n\n \n\n".toList).length) := by
  have hends : EndsLine "x;\n\n \n\n".toList := .inr (by decide)
  have hrun : 3 ∣ blankRun (Text.lines "x;\n\n \n\n".toList) := by decide
  exact ⟨hends, hrun, checkText_append "a.py" hends (.inr (.inr hrun))⟩

end LineRules
end PythonStyle
