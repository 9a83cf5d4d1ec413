import PythonStyle.Proofs.Contributions
import PythonStyle.Proofs.Matching
import PythonStyle.Proofs.Newlines

/-!
# The newline behind the last line

The last line of a text may lack its newline.  Only the rule for long lines counts the newline; all
others look at what stands in front of it, or take it for one more blank character.  This module
goes through the rules one by one and draws the conclusion for a text.

Main results:

- Theorem `Text.Shape.take_append_singleton`: a character that no slot takes does not change a cut.
- Theorem `checkLine_terminated`: what a newline behind a line changes.
- Theorem `lines_terminated`: what it changes in the lines of a text.
- Theorem `checkText_terminated`: what it changes in the diagnostics of a text.
-/

namespace PythonStyle

open Text

/-- A character that no slot takes does not change what is cut out of the text in front of it. -/
theorem Text.Shape.take_append_singleton {shape : Shape} {c : Char}
    (hc : ∀ slot ∈ shape, slot.takes c = false) (text : List Char) :
    take shape (text ++ [c]) = take shape text := by
  have hcut := take_prefix shape (text ++ [c])
  have hstart : take shape (text ++ [c]) <+: text := by
    rcases List.prefix_concat_iff.mp hcut with h | h
    · have hmem : c ∈ take shape (text ++ [c]) := by
        rw [h]
        exact List.mem_concat_self
      exact absurd hmem (not_mem_take hc _)
    · exact h
  have hshorter : take shape text <+: text ++ [c] := by
    have hprefix := take_prefix shape text
    exact hprefix.trans (List.prefix_append text [c])
  -- Each of the two cuts has the shape, so that neither is longer than the other.
  apply List.IsPrefix.eq_of_length_le
  · exact prefix_take (matches_take shape _) hstart
  · exact (prefix_take (matches_take shape text) hshorter).length_le

/-- No beginning of a class name has a newline. -/
theorem Naming.lowercaseClassName?_terminated (text : List Char) :
    lowercaseClassName? (text ++ ['\n']) = lowercaseClassName? text := by
  rw [lowercaseClassName?, lowercaseClassName?,
    Shape.take_append_singleton takes_newline_mixedCase]
  cases text with
  | nil => rfl
  | cons c text => rfl

namespace LineRules

/-! ## One line -/

section Line

variable {line : List Char}

theorem tooLong_iff {text : List Char} : tooLong text = true ↔ 80 ≤ text.length :=
  decide_eq_true_iff

/-- The newline makes a line too long that would be as long as possible without it. -/
theorem flag_tooLong_terminated (file : String) (number : Nat) (line : List Char) :
    flag file number .lineLength (tooLong (line ++ ['\n'])) =
      (if line.length = 79 then [.of file number .lineLength none] else []) ++
        flag file number .lineLength (tooLong line) := by
  have hlength : (line ++ ['\n']).length = line.length + 1 := List.length_append
  by_cases h : line.length = 79
  · have hlong : tooLong (line ++ ['\n']) = true := tooLong_iff.mpr (by omega)
    have hshort : ¬ tooLong line = true := by
      rw [tooLong_iff]
      omega
    rw [if_pos h, flag, if_pos hlong, flag, if_neg hshort, List.append_nil]
  · have hsame : tooLong (line ++ ['\n']) = tooLong line := by
      rw [Bool.eq_iff_iff, tooLong_iff, tooLong_iff]
      omega
    rw [if_neg h, hsame, List.nil_append]

theorem misindented_terminated (line : List Char) :
    misindented (line ++ ['\n']) = misindented line := by
  have hspaces : (line ++ ['\n']).takeWhile (· == ' ') = line.takeWhile (· == ' ') := by
    induction line with
    | nil => rfl
    | cons c line ih => rw [List.cons_append, List.takeWhile_cons, List.takeWhile_cons, ih]
  rw [misindented, misindented, leadingSpaces, leadingSpaces, hspaces]

theorem endsWord_terminated (line : List Char) : endsWord (line ++ ['\n']) = endsWord line := by
  have hdrop (p : Char → Bool) (hp : p '\n' = false) (text : List Char) :
      (text ++ ['\n']).dropWhile p = text.dropWhile p ++ ['\n'] := by
    induction text with
    | nil => exact List.dropWhile_cons_of_neg (by simp [hp])
    | cons c text ih =>
        rw [List.cons_append, List.dropWhile_cons, List.dropWhile_cons, ih]
        split <;> rfl
  rw [endsWord, endsWord, hdrop _ (by decide), hdrop _ (by decide)]
  cases (line.dropWhile (· == ' ')).dropWhile Char.isAlpha with
  | nil => decide
  | cons c text => rfl

theorem countBlank_terminated (blank number : Nat) (line : List Char) :
    countBlank blank ⟨number, line ++ ['\n']⟩ = countBlank blank ⟨number, line⟩ := by
  have hblank : (Line.mk number (line ++ ['\n'])).isBlank = (Line.mk number line).isBlank := by
    simp [Line.isBlank]
  rw [countBlank, countBlank, hblank]

theorem badClassName?_terminated (line : List Char) :
    badClassName? (line ++ ['\n']) = badClassName? line := by
  have hkeyword : classKeyword <+: line ++ ['\n'] ↔ classKeyword <+: line := by
    rw [List.prefix_concat_iff]
    constructor
    · rintro (h | h)
      · have hmem : '\n' ∈ classKeyword := h ▸ List.mem_concat_self
        exact absurd hmem (by decide)
      · exact h
    · exact Or.inr
  rw [badClassName?, badClassName?]
  by_cases h : classKeyword <+: line
  · rw [if_pos (List.isPrefixOf_iff_prefix.mpr (hkeyword.mpr h)),
      if_pos (List.isPrefixOf_iff_prefix.mpr h), List.drop_append_of_le_length h.length_le,
      Naming.lowercaseClassName?_terminated]
  · rw [if_neg, if_neg]
    · exact fun hprefix => h (List.isPrefixOf_iff_prefix.mp hprefix)
    · exact fun hprefix => h (hkeyword.mp (List.isPrefixOf_iff_prefix.mp hprefix))

theorem content_terminated (h : '\n' ∉ line) : content (line ++ ['\n']) = content line := by
  have hplain : line.getLast? ≠ some '\n' := fun hlast => h (List.mem_of_getLast? hlast)
  rw [content, content, if_neg hplain, List.getLast?_concat, if_pos rfl, List.dropLast_concat]

/-- A newline behind a line makes no difference to its diagnostics, nor to the count of blank lines,
unless it makes the line too long: then the line is reported for its length, first of all. -/
theorem checkLine_terminated (file : String) (blank number : Nat) (h : '\n' ∉ line) :
    checkLine file blank ⟨number, line ++ ['\n']⟩ =
      ((if line.length = 79 then [.of file number .lineLength none] else []) ++
          (checkLine file blank ⟨number, line⟩).1,
        (checkLine file blank ⟨number, line⟩).2) := by
  have hfirst : firstLine (line ++ ['\n']) = firstLine line := by
    rw [firstLine_append_newline h, firstLine_of_not_mem h]
  have hsemicolon : hasSemicolon (line ++ ['\n']) = hasSemicolon line := by
    rw [hasSemicolon, hasSemicolon, hfirst, endsWord_terminated]
  have hcomment : hasCrowdedComment (line ++ ['\n']) = hasCrowdedComment line := by
    rw [hasCrowdedComment, hasCrowdedComment, hfirst]
  have htask : hasTask (line ++ ['\n']) = hasTask line := by
    rw [hasTask, hasTask, hfirst]
  have hname : badFunctionName? (line ++ ['\n']) = badFunctionName? line := by
    rw [badFunctionName?, badFunctionName?, content_terminated h]
  simp only [checkLine, flag_tooLong_terminated, misindented_terminated, hsemicolon, hcomment,
    htask, countBlank_terminated, hfirst, badClassName?_terminated, hname, List.append_assoc]

end Line

/-! ## The last line of a text -/

/-- A newline behind a text that lacks it belongs to the last line. -/
theorem lines_terminated {text : List Char} (h : ¬ EndsLine text) :
    ∃ earlier last, lines text = earlier ++ [last] ∧ '\n' ∉ last ∧
      lines (text ++ ['\n']) = earlier ++ [last ++ ['\n']] := by
  have hcuts := cutsIntoLines_lines text
  rcases List.eq_nil_or_concat (lines text) with hnil | ⟨earlier, last, hlines⟩
  · rw [hnil] at hcuts
    exact absurd (.inl hcuts.flatten.symm) h
  rw [List.concat_eq_append] at hlines
  rw [hlines] at hcuts
  have hlast : last ≠ [] := hcuts.ne_nil last List.mem_concat_self
  have hplain : '\n' ∉ last := by
    intro hmem
    rw [← List.dropLast_append_getLast hlast, List.mem_append, List.mem_singleton] at hmem
    rcases hmem with hmem | hmem
    · exact hcuts.inside last List.mem_concat_self hmem
    · apply h
      right
      rw [← hcuts.flatten, List.flatten_concat, List.getLast?_append_of_ne_nil _ hlast,
        List.getLast?_eq_some_getLast hlast, ← hmem]
  refine ⟨earlier, last, hlines, hplain, lines_eq_iff.mpr ⟨?_, ?_, ?_, ?_⟩⟩
  · rw [← hcuts.flatten]
    simp
  · intro piece hpiece
    rcases List.mem_append.mp hpiece with hpiece | hpiece
    · exact hcuts.ne_nil piece (List.mem_append_left _ hpiece)
    · rw [List.mem_singleton.mp hpiece]
      simp
  · intro piece hpiece
    rcases List.mem_append.mp hpiece with hpiece | hpiece
    · exact hcuts.inside piece (List.mem_append_left _ hpiece)
    · rwa [List.mem_singleton.mp hpiece, List.dropLast_concat]
  · have hended := hcuts.ended
    rwa [List.dropLast_concat] at hended ⊢

/-- The last line of a text is checked with the count that the earlier lines leave. -/
theorem checkLines_concat (file : String) (earlier : List (List Char)) (last : List Char) :
    checkLines file 1 0 (earlier ++ [last]) =
      checkLines file 1 0 earlier ++
        (checkLine file (blankRun earlier % 3) ⟨earlier.length + 1, last⟩).1 := by
  have hpieces := checkLines_append file 1 [] earlier [last]
  rw [List.nil_append, Nat.add_comm 1] at hpieces
  rw [← List.append_nil (checkLine _ _ _).1]
  exact hpieces

/-- A newline behind a text that lacks it makes no difference to the diagnostics, unless the last
line has as many characters as a line may have with its newline.  Then it is reported for its
length, before anything else that is found in it; all that may have been reported for it before is
that too many blank lines precede it.  Neither the count of blank lines nor any rule but the one for
the length tells the last line from one with a newline. -/
theorem checkText_terminated (file : String) {text : List Char} (h : ¬ EndsLine text) :
    ∃ earlier last, lines text = earlier ++ [last] ∧ '\n' ∉ last ∧
      (∀ d ∈ checkLines file 1 0 earlier, d.code ≠ .blankLines → d.line ≤ earlier.length) ∧
      checkText file text =
        checkLines file 1 0 earlier ++
          (checkLine file (blankRun earlier % 3) ⟨earlier.length + 1, last⟩).1 ∧
      checkText file (text ++ ['\n']) =
        checkLines file 1 0 earlier ++
          ((if last.length = 79 then [.of file (earlier.length + 1) .lineLength none] else []) ++
            (checkLine file (blankRun earlier % 3) ⟨earlier.length + 1, last⟩).1) ∧
      ∀ blank number,
        (checkLine file blank ⟨number, last ++ ['\n']⟩).2 =
            (checkLine file blank ⟨number, last⟩).2 ∧
          ∀ code, code ≠ .lineLength →
            (checkLine file blank ⟨number, last ++ ['\n']⟩).1.filter (fun d => d.code == code) =
              (checkLine file blank ⟨number, last⟩).1.filter (fun d => d.code == code) := by
  obtain ⟨earlier, last, hlines, hplain, hterminated⟩ := lines_terminated h
  refine ⟨earlier, last, hlines, hplain, ?_, ?_, ?_, ?_⟩
  · intro d hd hcode
    obtain ⟨_, -, number, code, subject, -, -, hnumber, rfl⟩ := exists_of_mem_checkLines hd
    have hupper : number < 1 + earlier.length := (hnumber hcode).2
    have hline : number ≤ earlier.length := by omega
    exact hline
  · rw [checkText, hlines, checkLines_concat]
  · rw [checkText, hterminated, checkLines_concat, checkLine_terminated file _ _ hplain]
  · intro blank number
    rw [checkLine_terminated file blank number hplain]
    refine ⟨rfl, fun code hcode => ?_⟩
    have hlength : (Code.lineLength == code) = false := by simpa using Ne.symm hcode
    rw [List.filter_append]
    split
    · simp [Diagnostic.of, hlength]
    · rfl

/-- A line of 79 characters behind three blank ones is too long with its newline only. -/
theorem checkText_terminated_long :
    ¬ EndsLine ("\n\n\n".toList ++ List.replicate 79 'x') ∧
      (checkText "a.py" ("\n\n\n".toList ++ List.replicate 79 'x' ++ ['\n'])).length =
        (checkText "a.py" ("\n\n\n".toList ++ List.replicate 79 'x')).length + 1 := by
  have hends : ¬ EndsLine ("\n\n\n".toList ++ List.replicate 79 'x') := by
    rintro (h | h)
    · exact absurd h (by decide)
    · exact absurd h (by decide)
  obtain ⟨earlier, last, hlines, -, -, htext, hterminated, -⟩ := checkText_terminated "a.py" hends
  have hlast : (lines ("\n\n\n".toList ++ List.replicate 79 'x')).getLast? = some last := by
    rw [hlines, List.getLast?_concat]
  have hlength : last.length = 79 := by
    have hlong : (lines ("\n\n\n".toList ++ List.replicate 79 'x')).getLast?.map List.length =
        some 79 := by decide
    rw [hlast] at hlong
    exact Option.some.inj hlong
  refine ⟨hends, ?_⟩
  rw [htext, hterminated, if_pos hlength]
  simp only [List.length_append, List.length_singleton]
  omega

end LineRules
end PythonStyle
