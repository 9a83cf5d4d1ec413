import PythonStyle.Text.Search

/-!
# Lines of text

Lines end with a newline, which belongs to the line.  Texts may also end their lines
with a carriage return, with or without a newline behind it; `normalizeNewlines` makes
each of these one newline.

Main definitions:

- `normalizeNewlines`: makes every line end with a newline alone.
- `lines`: cuts a text behind its newlines.
- `firstLine`: a text up to its first newline.

Main results:

- `normalizeNewlines_pair` and `normalizeNewlines_cons`: what becomes of the start of a text.
- `flatten_lines`: the lines together are the text.
-/

namespace PythonStyle.Text

/-- Makes a newline of each carriage return with a newline behind it, then of each
carriage return that is left. -/
def normalizeNewlines (text : List Char) : List Char :=
  (replaceAll ['\r', '\n'] ['\n'] text).map fun c => if c = '\r' then '\n' else c

@[simp] theorem normalizeNewlines_nil : normalizeNewlines [] = [] := by
  simp [normalizeNewlines]

/-- A carriage return and the newline behind it become one newline. -/
theorem normalizeNewlines_pair (rest : List Char) :
    normalizeNewlines ('\r' :: '\n' :: rest) = '\n' :: normalizeNewlines rest := by
  have hpair := replaceAll_append ['\n'] (List.cons_ne_nil '\r' ['\n']) rest
  exact congrArg (List.map _) hpair

/-- Any other character stands for itself, but for a carriage return. -/
theorem normalizeNewlines_cons {c : Char} {rest : List Char} (h : ¬ ['\r', '\n'] <+: c :: rest) :
    normalizeNewlines (c :: rest) = (if c = '\r' then '\n' else c) :: normalizeNewlines rest := by
  rw [normalizeNewlines, replaceAll_cons ['\n'] h]
  rfl

/-- No carriage return is left. -/
theorem return_not_mem_normalizeNewlines (text : List Char) : '\r' ∉ normalizeNewlines text := by
  intro h
  obtain ⟨c, -, hc⟩ := List.mem_map.mp h
  split at hc
  · exact absurd hc (by decide)
  · next hne => exact hne hc

/-- Cuts a text behind each newline; what follows the last newline is a line unless it
is empty. -/
def lines : List Char → List (List Char)
  | [] => []
  | c :: rest =>
    if c = '\n' then [c] :: lines rest
    else match lines rest with
      | [] => [[c]]
      | line :: more => (c :: line) :: more

/-- A text up to its first newline. -/
def firstLine (text : List Char) : List Char :=
  text.takeWhile (· != '\n')

/-- A first line has no newline. -/
theorem newline_not_mem_firstLine (text : List Char) : '\n' ∉ firstLine text := by
  intro h
  simpa using List.all_eq_true.mp List.all_takeWhile _ h

theorem prefix_firstLine (text : List Char) : firstLine text <+: text :=
  List.takeWhile_prefix _

/-- Up to the first newline, a text starts as its first line does. -/
theorem firstLine_append {start : List Char} (h : '\n' ∉ start) (tail : List Char) :
    firstLine (start ++ tail) = start ++ firstLine tail :=
  List.takeWhile_append_of_pos fun _ hc => bne_iff_ne.mpr fun hnewline => h (hnewline ▸ hc)

theorem firstLine_of_not_mem {text : List Char} (h : '\n' ∉ text) : firstLine text = text := by
  simpa [firstLine] using firstLine_append h []

theorem firstLine_append_newline {line : List Char} (h : '\n' ∉ line) (rest : List Char) :
    firstLine (line ++ '\n' :: rest) = line := by
  simpa [firstLine] using firstLine_append h ('\n' :: rest)

@[simp] theorem lines_nil : lines [] = [] := rfl

/-- The lines together are the text. -/
@[simp] theorem flatten_lines (text : List Char) : (lines text).flatten = text := by
  induction text with
  | nil => rfl
  | cons c rest ih =>
    rw [lines]
    split
    · simp [ih]
    · split
      · rename_i h
        simp [h] at ih
        simp [← ih]
      · rename_i h
        simp [h] at ih
        simp [← ih]

end PythonStyle.Text
