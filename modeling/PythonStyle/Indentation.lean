import PythonStyle.Source
import PythonStyle.Tree.Cursor

/-!
# Tabs and spaces

The indentation of a line depends on how wide a tab is.  Here it is measured with
tabs that go to the next multiple of eight and with tabs of width one.  Tabs are
ambiguous when the two measures do not agree, on some logical line, on whether the
line is indented more than, less than or as much as the lines before it.

Main definitions:

- `Columns.ofRow`: the two measures of the blanks that a row starts with.
- `logicalRows` and `logicalColumns`: the rows where a statement or a clause starts, and
  their measures.
- `Levels.enter`: how a row fits the open blocks.
- `ambiguousTabs`: whether some row does not fit.
-/

namespace PythonStyle

/-! ## Measuring a row -/

/-- Whether a glyph is a blank that indents. -/
def Glyph.indents (g : Glyph) : Bool :=
  g.is ' ' || g.is '\t' || g.is '\x0c'

/-- The blanks that a row starts with. -/
def leadingBlanks (row : List Glyph) : List Glyph := row.takeWhile Glyph.indents

/-- The indentation of a row with wide and with narrow tabs. -/
structure Columns where
  wide : Nat
  narrow : Nat
  deriving DecidableEq, Inhabited

namespace Columns

/-- The width of a wide tab. -/
def tabWidth : Nat := 8

/-- The columns after one more blank: a form feed starts afresh. -/
def after (c : Columns) (g : Glyph) : Columns :=
  if g.is ' ' then ⟨c.wide + 1, c.narrow + 1⟩
  else if g.is '\t' then ⟨(c.wide / tabWidth + 1) * tabWidth, c.narrow + 1⟩
  else ⟨0, 0⟩

/-- The columns after the blanks that a row starts with. -/
def ofRow (row : List Glyph) : Columns :=
  (leadingBlanks row).foldl after ⟨0, 0⟩

end Columns

/-! ## Logical lines -/

/-- The clauses and definitions that start a logical line inside a statement. -/
def lineStartKinds : List String :=
  ["elif_clause", "else_clause", "except_clause", "except_group_clause", "finally_clause",
    "case_clause", "function_definition", "class_definition"]

/-- Whether a node starts a logical line: it is a clause or a definition, or a
statement of a module or a block.  Comments do not count. -/
def startsLogicalLine (c : Cursor) : Bool :=
  c.focus.isNamed && c.focus.kind != "comment" &&
    (lineStartKinds.contains c.focus.kind ||
      c.parent?.any fun p => p.kind == "module" || p.kind == "block")

/-- The row of a node, if the node stands right behind the blanks that its row starts
with. -/
def rowIfFirst? (s : Source) (rows : List (List Glyph)) (t : Tree) : Option Nat :=
  let row := s.row t.start
  let indent := (rows[row]?.map fun r => (leadingBlanks r).length).getD 0
  if s.column t.start = indent then some row else none

/-- The rows where a logical line starts, in ascending order, each once. -/
def logicalRows (s : Source) (t : Tree) : List Nat :=
  let rows := s.rows
  let found := (t.cursors.filter startsLogicalLine).filterMap fun c => rowIfFirst? s rows c.focus
  (found.mergeSort (· ≤ ·)).eraseReps

/-- The columns of the logical lines, from the first on. -/
def logicalColumns (s : Source) (t : Tree) : List Columns :=
  let rows := s.rows
  (logicalRows s t).filterMap fun row => rows[row]?.map Columns.ofRow

/-! ## Open blocks -/

/-- The columns of the open blocks, the innermost first. -/
abbrev Levels := List Columns

namespace Levels

/-- The levels before the first line. -/
def base : Levels := [⟨0, 0⟩]

/-- Closes the blocks that are indented more than a width, except the outermost. -/
def closeTo (wide : Nat) : Levels → Levels
  | top :: next :: below =>
    if wide < top.wide then closeTo wide (next :: below) else top :: next :: below
  | levels => levels

/-- The levels after a row of given columns, unless the two measures disagree or there
is no level. -/
def enter (levels : Levels) (c : Columns) : Option Levels :=
  match levels with
  | [] => none
  | top :: _ =>
    if c.wide = top.wide then
      if c.narrow = top.narrow then some levels else none
    else if top.wide < c.wide then
      if c.narrow ≤ top.narrow then none else some (c :: levels)
    else
      let closed := closeTo c.wide levels
      if closed.head? = some c then some closed else none

end Levels

/-- Whether the tabs of a sequence of rows are ambiguous. -/
def ambiguousColumns (columns : List Columns) : Bool :=
  (columns.foldlM Levels.enter Levels.base).isNone

/-- Whether the tabs of a source are ambiguous. -/
def ambiguousTabs (s : Source) (t : Tree) : Bool :=
  ambiguousColumns (logicalColumns s t)

end PythonStyle
