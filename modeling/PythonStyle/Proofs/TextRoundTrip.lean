import Mathlib.Data.List.Infix
import PythonStyle.Proofs.OneLine

/-!
# Reading a text report back

A line of a report is made of a file, a number, a code and a message, with separators between
them that may also occur inside the file and the message.  The line can be taken apart all the
same if it is cut at the first separator of each kind: in front of the number there is only one
more file, and it is enough that the separator behind the file does not occur in the file.

Main definitions:

- `Text.cutAt?`: cuts a text at the first occurrence of a separator.
- `Diagnostic.ofLine?` and `readReport?`: the reader.
- `Diagnostic.Separable`: what is asked of the file and the message of a diagnostic.

Main results:

- Theorem `Text.cutAt?_eq_some_iff`: a cut is made at the first occurrence and nowhere else.
- Theorem `Text.cutAt?_append`: a separator behind a text that does not have it is found there,
  even if the text ends with a beginning of it.
- Theorem `Diagnostic.ofLine?_render`: a line is read as the diagnostic that it shows.
- Theorem `CheckReport.readReport?_toText`: so is a report, and reports with different
  diagnostics look different.
-/

namespace PythonStyle

namespace Text

/-! ## Cutting at a separator -/

/-- Cuts a text at the first occurrence of a separator: what stands before it and what stands
behind it. -/
def cutAt? (separator : List Char) : List Char → Option (List Char × List Char)
  | [] => if separator = [] then some ([], []) else none
  | c :: rest =>
    if separator <+: c :: rest then some ([], (c :: rest).drop separator.length)
    else (cutAt? separator rest).map fun cut => (c :: cut.1, cut.2)

variable {separator : List Char}

/-- A cut is made where the separator occurs for the first time: it stands there, and it starts
at no earlier place. -/
theorem cutAt?_eq_some_iff {text before behind : List Char} :
    cutAt? separator text = some (before, behind) ↔
      text = before ++ (separator ++ behind) ∧
        ∀ k < before.length, ¬ separator <+: text.drop k := by
  induction text generalizing before with
  | nil =>
      by_cases h : separator = []
      · simp +contextual [cutAt?, h, eq_comm]
      · simp [cutAt?, h]
  | cons c rest ih =>
      rw [cutAt?]
      by_cases hhere : separator <+: c :: rest
      · rw [if_pos hhere]
        constructor
        · intro h
          obtain ⟨rfl, rfl⟩ : [] = before ∧ (c :: rest).drop separator.length = behind := by
            simpa using h
          obtain ⟨more, hmore⟩ := hhere
          refine ⟨?_, fun k hk => absurd hk (Nat.not_lt_zero k)⟩
          rw [← hmore, List.nil_append, List.drop_left]
        · rintro ⟨htext, hfirst⟩
          cases before with
          | nil =>
              rw [htext, List.nil_append, List.drop_left]
          | cons d before => exact absurd hhere (hfirst 0 (Nat.zero_lt_succ _))
      · rw [if_neg hhere, Option.map_eq_some_iff]
        constructor
        · rintro ⟨⟨start, tail⟩, hcut, h⟩
          obtain ⟨rfl, rfl⟩ : c :: start = before ∧ tail = behind := by simpa using h
          obtain ⟨hrest, hfirst⟩ := ih.mp hcut
          refine ⟨by rw [hrest, List.cons_append], fun k hk => ?_⟩
          cases k with
          | zero => exact hhere
          | succ k => exact hfirst k (Nat.lt_of_succ_lt_succ hk)
        · rintro ⟨htext, hfirst⟩
          cases before with
          | nil => exact absurd ⟨behind, htext.symm⟩ hhere
          | cons d before =>
              obtain ⟨rfl, hrest⟩ := List.cons.inj htext
              refine ⟨(before, behind), ih.mpr ⟨hrest, fun k hk => ?_⟩, rfl⟩
              exact hfirst (k + 1) (Nat.succ_lt_succ hk)

/-- The first character of a separator starts nothing but a separator if it does not come back in
it.  So no occurrence starts in a text that has none and goes on into a separator behind it. -/
theorem not_prefix_append {first : Char} {others start : List Char} (hfirst : first ∉ others)
    (hstart : start ≠ []) (h : ¬ (first :: others) <:+: start) (behind : List Char) :
    ¬ (first :: others) <+: start ++ (first :: others ++ behind) := by
  intro hprefix
  rcases List.prefix_or_prefix_of_prefix hprefix (List.prefix_append start _) with
    hinside | ⟨more, hmore⟩
  · exact h hinside.isInfix
  · obtain ⟨c, tail, rfl⟩ := List.exists_cons_of_ne_nil hstart
    have htail : tail ++ more = others := (List.cons.inj hmore).2
    rw [← hmore, List.prefix_append_right_inj, hmore] at hprefix
    -- What is left of the separator behind the text would have to start as the separator does.
    cases more with
    | nil => exact h ⟨[], [], hmore ▸ by simp⟩
    | cons d more =>
        have hd : d = first := (List.cons_prefix_cons.mp hprefix).1
        exact hfirst (by simp [← htail, hd])

/-- A separator behind a text that does not have it is found behind that text, even if the text
ends with a beginning of it. -/
theorem cutAt?_append {first : Char} {others before : List Char} (hfirst : first ∉ others)
    (h : ¬ (first :: others) <:+: before) (behind : List Char) :
    cutAt? (first :: others) (before ++ (first :: others ++ behind)) =
      some (before, behind) := by
  rw [cutAt?_eq_some_iff]
  refine ⟨rfl, fun k hk => ?_⟩
  rw [List.drop_append_of_le_length hk.le]
  refine not_prefix_append hfirst ?_ (fun hoccurs => ?_) behind
  · exact List.drop_eq_nil_iff.not.mpr (not_le.mpr hk)
  · exact h (hoccurs.trans (List.drop_suffix k before).isInfix)

end Text

/-! ## The reader -/

/-- What stands between the file and the number of a line. -/
def fileSeparator : List Char := [':', ' ', 'L', 'i', 'n', 'e', ' ']

/-- What stands between the number and the code of a line. -/
def numberSeparator : List Char := [':', ' ']

/-- The length of a code. -/
def codeLength : Nat := 4

/-- The number that digits write. -/
def numberOf? (digits : List Char) : Option Nat :=
  if digits ≠ [] ∧ digits.all Char.isDigit then some (Nat.ofDigitChars 10 digits 0) else none

/-- The code and the message that end a line, with a space between them. -/
def codeAndMessage? (text : List Char) : Option (Code × String) :=
  match text.drop codeLength with
  | ' ' :: message =>
    (Code.ofText? (String.ofList (text.take codeLength))).map (·, String.ofList message)
  | _ => none

/-- The diagnostic that a line shows. -/
def Diagnostic.ofLine? (line : List Char) : Option Diagnostic := do
  let (file, rest) ← Text.cutAt? fileSeparator line
  let (number, rest) ← Text.cutAt? numberSeparator rest
  let (code, message) ← codeAndMessage? rest
  return ⟨String.ofList file, ← numberOf? number, code, message⟩

/-- The diagnostics that a text shows, one on each line; the last line ends with a newline too. -/
def readReport? (text : String) : Option (List Diagnostic) :=
  let pieces := text.toList.splitOn '\n'
  if pieces.getLast? = some [] then pieces.dropLast.mapM Diagnostic.ofLine? else none

/-! ## Reading a line -/

theorem numberOf?_toDigits (n : Nat) : numberOf? (Nat.toDigits 10 n) = some n := by
  have hdigits : (Nat.toDigits 10 n).all Char.isDigit :=
    List.all_eq_true.mpr fun c hc => Nat.isDigit_of_mem_toDigits (by decide) (by decide) hc
  rw [numberOf?, if_pos ⟨Nat.toDigits_ne_nil, hdigits⟩, Nat.ofDigitChars_toDigits]
  all_goals decide

/-- A number has no colon. -/
theorem colon_not_mem_toDigits (n : Nat) : ':' ∉ Nat.toDigits 10 n := by
  intro h
  have hdigit : ':'.isDigit := Nat.isDigit_of_mem_toDigits (by decide) (by decide) h
  exact absurd hdigit (by decide)

theorem codeAndMessage?_text (c : Code) (message : String) :
    codeAndMessage? (c.text.toList ++ (' ' :: message.toList)) = some (c, message) := by
  have hlength : c.text.toList.length = codeLength := by cases c <;> decide
  have hdrop : (c.text.toList ++ (' ' :: message.toList)).drop codeLength =
      ' ' :: message.toList := by
    rw [← hlength, List.drop_left]
  have htake : (c.text.toList ++ (' ' :: message.toList)).take codeLength = c.text.toList := by
    rw [← hlength, List.take_left]
  simp [codeAndMessage?, hdrop, htake]

namespace Diagnostic

/-- What is asked of a diagnostic whose line is read: neither its file nor its message has a
newline, and the file does not have what stands behind the file. -/
structure Separable (d : Diagnostic) : Prop where
  file : OneLine d.file
  separator : ¬ fileSeparator <:+: d.file.toList
  message : OneLine d.message

theorem toList_render (d : Diagnostic) :
    d.render.toList = d.file.toList ++ (fileSeparator ++ (Nat.toDigits 10 d.line ++
      (numberSeparator ++ (d.code.text.toList ++ (' ' :: d.message.toList))))) := by
  have hnumber : (toString d.line).toList = Nat.toDigits 10 d.line := by
    rw [Nat.toString_eq_repr, Nat.repr, String.toList_ofList]
  have hfile : ": Line ".toList = fileSeparator := by decide
  have hcolon : ": ".toList = numberSeparator := by decide
  have hspace : " ".toList = [' '] := by decide
  simp only [render, String.toList_append, hnumber, hfile, hcolon, hspace, List.append_assoc,
    List.singleton_append]

/-- A line is read as the diagnostic that it shows. -/
theorem ofLine?_render {d : Diagnostic} (h : d.Separable) :
    ofLine? d.render.toList = some d := by
  have hfile (behind : List Char) :
      Text.cutAt? fileSeparator (d.file.toList ++ (fileSeparator ++ behind)) =
        some (d.file.toList, behind) :=
    Text.cutAt?_append (by decide) h.separator behind
  have hcolon : ¬ numberSeparator <:+: Nat.toDigits 10 d.line :=
    fun hoccurs => colon_not_mem_toDigits d.line (hoccurs.subset List.mem_cons_self)
  have hnumber (behind : List Char) :
      Text.cutAt? numberSeparator (Nat.toDigits 10 d.line ++ (numberSeparator ++ behind)) =
        some (Nat.toDigits 10 d.line, behind) :=
    Text.cutAt?_append (by decide) hcolon behind
  rw [toList_render, ofLine?, hfile]
  simp [hnumber, codeAndMessage?_text, numberOf?_toDigits]

end Diagnostic

/-- A file that has what stands behind a file makes lines that say two things. -/
example : (Diagnostic.mk "a: Line 1: S001 x" 2 .openTask "y").render =
    (Diagnostic.mk "a" 1 .lineLength "x: Line 2: S005 y").render := by
  decide

/-! ## Reading a report -/

namespace CheckReport

/-- Cutting lines that end with newlines gives the lines, and an empty piece behind the last. -/
theorem splitOn_join (lines : List String) (h : ∀ line ∈ lines, OneLine line) :
    (String.join (lines.map asLine)).toList.splitOn '\n' =
      lines.map String.toList ++ [[]] := by
  induction lines with
  | nil => rfl
  | cons line lines ih =>
      have hline : '\n' ∉ line.toList := h line List.mem_cons_self
      have htext : (asLine line).toList = line.toList ++ ['\n'] := by simp [asLine]
      rw [List.map_cons, String.join_cons, String.toList_append, htext, List.append_assoc,
        List.singleton_append, List.splitOn_append_cons_self_of_not_mem hline,
        ih fun l hl => h l (List.mem_cons_of_mem line hl), List.map_cons, List.cons_append]

theorem mapM_ofLine?_render {ds : List Diagnostic} (h : ∀ d ∈ ds, d.Separable) :
    (ds.map fun d => d.render.toList).mapM Diagnostic.ofLine? = some ds := by
  induction ds with
  | nil => rfl
  | cons d ds ih =>
      have hd : Diagnostic.ofLine? d.render.toList = some d :=
        Diagnostic.ofLine?_render (h d List.mem_cons_self)
      have hds := ih fun e he => h e (List.mem_cons_of_mem d he)
      simp [hd, hds]

theorem readReport?_of_separable {r : CheckReport} (h : ∀ d ∈ r.diagnostics, d.Separable) :
    readReport? r.toText = some r.diagnostics := by
  have hlines : ∀ line ∈ r.lines, OneLine line := by
    intro line hline
    obtain ⟨d, hd, rfl⟩ := List.mem_map.mp hline
    exact (oneLine_render_iff d).mpr ⟨(h d hd).file, (h d hd).message⟩
  have hread : (r.lines.map String.toList).mapM Diagnostic.ofLine? = some r.diagnostics := by
    rw [lines, List.map_map]
    exact mapM_ofLine?_render h
  rw [readReport?, toText, splitOn_join r.lines hlines]
  simp [hread]

/-- A report as text is read back as its diagnostics, file, number, code and message of each of
them, if no file or message has a newline and no file has what stands behind a file; so two such
reports with different diagnostics look different. -/
theorem readReport?_toText {r : CheckReport} (h : ∀ d ∈ r.diagnostics, d.Separable) :
    readReport? r.toText = some r.diagnostics ∧
      ∀ other : CheckReport, (∀ d ∈ other.diagnostics, d.Separable) →
        other.diagnostics ≠ r.diagnostics → other.toText ≠ r.toText := by
  have hread := readReport?_of_separable h
  refine ⟨hread, fun other hother hne htext => hne ?_⟩
  have hreadOther := readReport?_of_separable hother
  rw [htext, hread] at hreadOther
  exact (Option.some.inj hreadOther).symm

/-- Separators in the message, in parts of the file and across its end do no harm. -/
theorem readReport?_toText_separators :
    let r : CheckReport := ⟨[⟨": 1: S001 b: Line", 20, .functionName, "x: Line 3: S001 y"⟩,
      ⟨"", 0, .mutableDefault, ""⟩], [], 2, 0⟩
    (∀ d ∈ r.diagnostics, d.Separable) ∧ readReport? r.toText = some r.diagnostics := by
  intro r
  have hseparable : ∀ d ∈ r.diagnostics, d.Separable := by
    simp only [r, List.forall_mem_cons]
    exact ⟨⟨by decide, by decide, by decide⟩, ⟨by decide, by decide, by decide⟩, by simp⟩
  exact ⟨hseparable, (readReport?_toText hseparable).1⟩

end CheckReport

end PythonStyle
