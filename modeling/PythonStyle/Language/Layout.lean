import PythonStyle.Language.Terminal

/-!
# Layout and strings

Line ends, indentation and the parts of strings are terminals whose texts depend on
what was read before: on the indentation of the open blocks and on how the open
strings began.  This is what a `Layout` holds.

Layout terminals are produced only where they may come next.  Line ends, indents and
dedents are empty and sit where the terminal before them ended; what separates them
from the next terminal is looked at but not read.

Main definitions:

- `Layout`: the open blocks and the open strings.
- `margin?`: measures what stands between two terminals.
- `piece`: finds the next part of a string.
- `Layout.next?`: the layout terminal at an offset, if there is one.
-/

namespace PythonStyle.Language

/-- How a string began. -/
structure Delimiter where
  quote : Char
  triple : Bool
  format : Bool
  raw : Bool
  bytes : Bool
  deriving DecidableEq, Inhabited

/-- The indentations of the open blocks and the open strings, innermost first, and
whether the string opened last is a format string that is still open. -/
structure Layout where
  indents : List Nat := [0]
  strings : List Delimiter := []
  insideFormat : Bool := false
  deriving DecidableEq, Inhabited

/-- The layout terminals that may come next, and whether a closing bracket or the
word `except` may. -/
structure Expected where
  newline : Bool
  indent : Bool
  dedent : Bool
  stringStart : Bool
  stringContent : Bool
  escapeInterpolation : Bool
  closing : Bool
  handler : Bool

/-- A layout terminal with its span and the layout after it. -/
structure LayoutToken where
  terminal : Terminal
  start : Nat
  stop : Nat
  layout : Layout

/-! ## Spans only grow -/

/-- A span ends no earlier than it starts. -/
theorem le_spanUntil (s : Source) (p : Char → Bool) (offset : Nat) :
    offset ≤ spanUntil s p offset := by
  fun_induction spanUntil s p offset with
  | case1 => exact Nat.le_refl _
  | case2 _ _ _ ih => omega
  | case3 => exact Nat.le_refl _

/-- Skipping a character goes forward. -/
theorem le_skipOne (s : Source) (p : Char → Bool) (offset : Nat) :
    offset ≤ skipOne s p offset := by
  unfold skipOne
  split <;> omega

/-! ## Between terminals -/

/-- What was met between two terminals: whether a line ended, the width of the last
indentation, and the width in front of the first comment on a line of its own. -/
structure Margin where
  broken : Bool := false
  width : Nat := 0
  comment : Option Nat := none

/-- Measures blanks, line ends, joined lines and, if asked to, comments from an offset
on; also gives the offset after them.  A tab is eight columns wide, a carriage return
and a form feed start the width afresh.  There is no measure in front of a comment on
the line of a terminal, or of a backslash that joins no lines. -/
def margin? (s : Source) (comments : Bool) (offset : Nat) (m : Margin) :
    Option (Nat × Margin) :=
  if h : offset < s.size then
    if s.isAt '\n' offset then
      margin? s comments (offset + 1) { m with broken := true, width := 0 }
    else if s.isAt ' ' offset then
      margin? s comments (offset + 1) { m with width := m.width + 1 }
    else if s.isAt '\r' offset || s.isAt '\x0c' offset then
      margin? s comments (offset + 1) { m with width := 0 }
    else if s.isAt '\t' offset then
      margin? s comments (offset + 1) { m with width := m.width + 8 }
    else if comments && s.isAt '#' offset then
      if m.broken then
        have : offset + 1 ≤ spanUntil s (fun c => c == '\n' || c == '\x00') (offset + 1) :=
          le_spanUntil ..
        margin? s comments (spanUntil s (fun c => c == '\n' || c == '\x00') (offset + 1) + 1)
          { m with width := 0, comment := m.comment <|> some m.width }
      else none
    else if s.isAt '\\' offset then
      have : offset + 1 ≤ skipOne s (· == '\r') (offset + 1) := le_skipOne ..
      if s.isAt '\n' (skipOne s (· == '\r') (offset + 1)) then
        margin? s comments (skipOne s (· == '\r') (offset + 1) + 1) m
      else if s.size ≤ skipOne s (· == '\r') (offset + 1) then
        margin? s comments (skipOne s (· == '\r') (offset + 1)) m
      else none
    else some (offset, m)
  else some (offset, { m with broken := true, width := 0 })
termination_by s.size - offset

/-! ## Strings -/

/-- The next part of a string: some of its content or its end, up to an offset; no
part of either kind; or nothing before the source or a null character ends it. -/
inductive Piece where
  | content (stop : Nat)
  | close (stop : Nat)
  | other
  | unfinished (reached : Nat)

/-- The content up to an offset, unless there is none. -/
def Piece.upTo (filled : Bool) (offset : Nat) : Piece :=
  if filled then .content offset else .other

/-- The offset after what a backslash in a raw string keeps from ending it. -/
def rawEscape (s : Source) (d : Delimiter) (offset : Nat) : Nat :=
  let next := skipOne s (fun c => c == d.quote || c == '\\') (offset + 1)
  if s.isAt '\r' next then skipOne s (· == '\n') (next + 1)
  else skipOne s (· == '\n') next

/-- An escape in a raw string goes forward. -/
theorem lt_rawEscape (s : Source) (d : Delimiter) (offset : Nat) :
    offset < rawEscape s d offset := by
  have first := le_skipOne s (fun c => c == d.quote || c == '\\') (offset + 1)
  unfold rawEscape
  simp only
  split
  · have := le_skipOne s (· == '\n')
      (skipOne s (fun c => c == d.quote || c == '\\') (offset + 1) + 1)
    omega
  · have := le_skipOne s (· == '\n')
      (skipOne s (fun c => c == d.quote || c == '\\') (offset + 1))
    omega

/-- What a quote that closes the string ends: the content before it, or the string.
Fewer than three quotes are content of a string in triple quotes. -/
def quotePiece (s : Source) (d : Delimiter) (offset : Nat) (filled : Bool) : Piece :=
  if d.triple then
    if s.isAt d.quote (offset + 1) then
      if s.isAt d.quote (offset + 2) then
        if filled then .content offset else .close (offset + 3)
      else .content (offset + 2)
    else .content (offset + 1)
  else if filled then .content offset
  else .close (offset + 1)

/-- The next part of a string from an offset on; the flag says whether some content
was already met. -/
def piece (s : Source) (d : Delimiter) (offset : Nat) (filled : Bool) : Piece :=
  if h : offset < s.size then
    if s.isAt '\x00' offset then .unfinished offset
    else if d.format && (s.isAt '\x7b' offset || s.isAt '\x7d' offset) then
      Piece.upTo filled offset
    else if s.isAt '\\' offset then
      if d.raw then
        have := lt_rawEscape s d offset
        piece s d (rawEscape s d offset) filled
      else if d.bytes && s.satisfiesAt (fun c => c == 'N' || c == 'u' || c == 'U') (offset + 1) then
        piece s d (offset + 3) true
      else Piece.upTo filled offset
    else if s.isAt d.quote offset then quotePiece s d offset filled
    else if s.isAt '\n' offset && filled && !d.triple then .other
    else piece s d (offset + 1) true
  else .unfinished offset
termination_by s.size - offset

/-- Whether a character may stand in front of the quotes of a string. -/
def isStringPrefix (c : Char) : Bool :=
  "fFrRbBuU".contains c

/-- The beginning of a string at an offset: its delimiter and where its content starts. -/
def delimiter? (s : Source) (offset : Nat) : Option (Delimiter × Nat) :=
  let stop := spanFrom s isStringPrefix offset
  let letters := ((List.range (stop - offset)).filterMap fun i =>
    (s.glyph? (offset + i)).bind Glyph.char?)
  let withQuote := fun (quote : Char) (triple : Bool) =>
    ({ quote, triple
       format := letters.any fun c => c == 'f' || c == 'F'
       raw := letters.any fun c => c == 'r' || c == 'R'
       bytes := letters.any fun c => c == 'b' || c == 'B' } : Delimiter)
  if s.isAt '\x60' stop then some (withQuote '\x60' false, stop + 1)
  else
    let quoted := fun (quote : Char) =>
      if s.isAt quote (stop + 1) && s.isAt quote (stop + 2) then
        some (withQuote quote true, stop + 3)
      else some (withQuote quote false, stop + 1)
    if s.isAt '\'' stop then quoted '\''
    else if s.isAt '"' stop then quoted '"'
    else none

/-! ## Layout terminals -/

namespace Layout

/-- The indentation of the innermost open block. -/
def indent (l : Layout) : Nat := l.indents.head?.getD 0

/-- Opens a block. -/
def push (l : Layout) (width : Nat) : Layout :=
  { l with indents := width :: l.indents }

/-- Closes the innermost block. -/
def pop (l : Layout) : Layout :=
  { l with indents := l.indents.tail }

/-- Begins a string. -/
def opened (l : Layout) (d : Delimiter) : Layout :=
  { l with strings := d :: l.strings, insideFormat := d.format }

/-- Ends the string begun last. -/
def closed (l : Layout) : Layout :=
  { l with strings := l.strings.tail, insideFormat := false }

@[simp] theorem indent_push (l : Layout) (width : Nat) : (l.push width).indent = width := rfl

@[simp] theorem pop_push (l : Layout) (width : Nat) : (l.push width).pop = l := rfl

/-- The line end, indent, dedent or string start after an offset. -/
def lineToken? (s : Source) (expected : Expected) (l : Layout) (offset : Nat) :
    Option LayoutToken := do
  let comments := expected.indent || expected.dedent || expected.newline || expected.handler
  let (reached, m) ← margin? s comments offset {}
  let quoted := s.satisfiesAt (fun c => c == '"' || c == '\'' || c == '\x60') reached
  let closes := expected.dedent ||
    (!expected.newline && !(expected.stringStart && quoted) && !expected.closing)
  if m.broken && expected.indent && l.indent < m.width then
    some ⟨.indent, offset, offset, l.push m.width⟩
  else if m.broken && closes && m.width < l.indent && !l.insideFormat &&
      m.comment.all (· < l.indent) then
    some ⟨.dedent, offset, offset, l.pop⟩
  else if m.broken && expected.newline then
    some ⟨.newline, offset, offset, l⟩
  else if m.comment.isNone && expected.stringStart then
    let (d, stop) ← delimiter? s reached
    some ⟨.stringStart, reached, stop, l.opened d⟩
  else none

/-- The layout terminal at an offset, given what may come next. -/
def next? (s : Source) (expected : Expected) (l : Layout) (offset : Nat) :
    Option LayoutToken :=
  match l.strings with
  | [] => lineToken? s expected l offset
  | d :: _ =>
    let left := s.isAt '\x7b' offset
    let right := s.isAt '\x7d' offset
    if expected.escapeInterpolation && d.format && (left || right) then
      if (left && s.isAt '\x7b' (offset + 1)) || (right && s.isAt '\x7d' (offset + 1)) then
        some ⟨.escapeInterpolation, offset, offset + 2, l⟩
      else none
    else if expected.stringContent then
      match piece s d offset false with
      | .content stop => some ⟨.stringContent, offset, stop, l⟩
      | .close stop => some ⟨.stringEnd, offset, stop, l.closed⟩
      | .other => none
      | .unfinished reached => lineToken? s expected l reached
    else lineToken? s expected l offset

end Layout

end PythonStyle.Language
