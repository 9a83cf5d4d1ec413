import PythonStyle.Grammar.Rule
import PythonStyle.Source
import PythonStyle.Text.Identifier

/-!
# Terminals of Python

A terminal is a literal text, or one of a few classes of texts.  This module says
which texts a terminal has: `Terminal.longest?` gives the end of the longest one
that starts at an offset.  Layout and the parts of strings depend on what was read
before; their texts are found in `PythonStyle.Language.Layout`.

A literal that looks like an identifier is a *word*: it is read as an identifier,
which is then taken for the word where the word may come next.

Main definitions:

- `Terminal`: the terminals, and `Terminal.label`, the name of their nodes.
- `Terminal.longest?`: the longest text of a terminal at an offset.
- `blanksFrom`: skips the blanks between terminals.
-/

namespace PythonStyle.Language

open PythonStyle.Text

/-- The terminals of Python. -/
inductive Terminal where
  /-- A fixed text; a named one shows as a node of that name. -/
  | literal (text : String) (name : Option String)
  | identifier
  | integer
  | float
  | comment
  | lineContinuation
  | escapeSequence
  /-- A backslash in a string that starts no escape sequence. -/
  | loneBackslash
  | typeConversion
  /-- Text of a format specifier between interpolations. -/
  | formatText
  | newline
  | indent
  | dedent
  | stringStart
  | stringContent
  | escapeInterpolation
  | stringEnd
  deriving DecidableEq, Hashable, Inhabited

namespace Terminal

/-- How a terminal shows in the tree, if it does. -/
def label : Terminal → Option Grammar.Label
  | literal text none => some ⟨text, false⟩
  | literal _ (some name) => some ⟨name, true⟩
  | identifier => some ⟨"identifier", true⟩
  | integer => some ⟨"integer", true⟩
  | float => some ⟨"float", true⟩
  | comment => some ⟨"comment", true⟩
  | lineContinuation => some ⟨"line_continuation", true⟩
  | escapeSequence => some ⟨"escape_sequence", true⟩
  | typeConversion => some ⟨"type_conversion", true⟩
  | stringStart => some ⟨"string_start", true⟩
  | escapeInterpolation => some ⟨"escape_interpolation", true⟩
  | stringEnd => some ⟨"string_end", true⟩
  | loneBackslash | formatText | newline | indent | dedent | stringContent => none

/-- Whether a text is an identifier, so that a literal of that text is a word. -/
def isWord (text : String) : Bool :=
  match text.toList with
  | [] => false
  | c :: rest => Identifier.isStart c && rest.all Identifier.isContinue

end Terminal

/-! ## Spans -/

/-- The end of the run of characters of a class that starts at an offset. -/
def spanFrom (s : Source) (p : Char → Bool) (offset : Nat) : Nat :=
  if h : offset < s.size then
    if s.satisfiesAt p offset then spanFrom s p (offset + 1) else offset
  else offset
termination_by s.size - offset

/-- The end of the run of glyphs, stray bytes included, of which none is a
character of a class. -/
def spanUntil (s : Source) (stops : Char → Bool) (offset : Nat) : Nat :=
  if h : offset < s.size then
    if s.satisfiesAt stops offset then offset else spanUntil s stops (offset + 1)
  else offset
termination_by s.size - offset

/-- The offset after a literal text, if it stands at an offset. -/
def literalFrom? (s : Source) : List Char → Nat → Option Nat
  | [], offset => some offset
  | c :: rest, offset => if s.isAt c offset then literalFrom? s rest (offset + 1) else none

/-- Whether a character may stand between terminals: an ASCII blank, or one of three
characters without width. -/
def isSeparator (c : Char) : Bool :=
  c == ' ' || ('\t' ≤ c && c ≤ '\r') || c == '\uFEFF' || c == '\u2060' || c == '\u200B'

/-- The offset after the blanks that start at an offset. -/
def blanksFrom (s : Source) (offset : Nat) : Nat :=
  spanFrom s isSeparator offset

/-! ## Numbers -/

/-- The end of a run of digits of a class that starts at an offset, where one
underscore may stand before each digit.  The offset itself if there is no digit. -/
def groupedFrom (s : Source) (p : Char → Bool) (offset : Nat) : Nat :=
  if h : offset < s.size then
    if s.satisfiesAt p offset then groupedFrom s p (offset + 1)
    else if s.isAt '_' offset && s.satisfiesAt p (offset + 1) then
      groupedFrom s p (offset + 2)
    else offset
  else offset
termination_by s.size - offset

/-- The offset after a single character of a class, if one stands there, and
otherwise the offset itself. -/
def skipOne (s : Source) (p : Char → Bool) (offset : Nat) : Nat :=
  if s.satisfiesAt p offset then offset + 1 else offset

/-- The end of a decimal number without point and exponent: digits, after each of
which one underscore may stand. -/
def digitsFrom? (s : Source) (offset : Nat) : Option Nat :=
  if s.satisfiesAt Char.isDigit offset then
    some (skipOne s (· == '_') (groupedFrom s Char.isDigit offset))
  else none

/-- The end of a number written after a marker of its base, such as a zero and an x. -/
def basedFrom? (s : Source) (marker : Char → Bool) (digit : Char → Bool) (offset : Nat) :
    Option Nat :=
  let first := offset + 2
  let stop := groupedFrom s digit first
  if s.isAt '0' offset && s.satisfiesAt marker (offset + 1) && first < stop then
    some (skipOne s (fun c => c == 'l' || c == 'L') stop)
  else none

/-- Whether a character is a hexadecimal digit. -/
def isHexDigit (c : Char) : Bool :=
  c.isDigit || ('a' ≤ c && c ≤ 'f') || ('A' ≤ c && c ≤ 'F')

/-- The end of an integer. -/
def integerFrom? (s : Source) (offset : Nat) : Option Nat :=
  basedFrom? s (fun c => c == 'x' || c == 'X') isHexDigit offset <|>
  basedFrom? s (fun c => c == 'o' || c == 'O') (fun c => '0' ≤ c && c ≤ '7') offset <|>
  basedFrom? s (fun c => c == 'b' || c == 'B') (fun c => c == '0' || c == '1') offset <|>
  (digitsFrom? s offset).map fun stop =>
    skipOne s (fun c => c == 'l' || c == 'L' || c == 'j' || c == 'J') stop

/-- The end of an exponent. -/
def exponentFrom? (s : Source) (offset : Nat) : Option Nat :=
  if s.satisfiesAt (fun c => c == 'e' || c == 'E') offset then
    digitsFrom? s (skipOne s (fun c => c == '+' || c == '-') (offset + 1))
  else none

/-- The end of a number with a point or an exponent. -/
def floatFrom? (s : Source) (offset : Nat) : Option Nat := do
  let whole := digitsFrom? s offset
  let afterWhole := whole.getD offset
  let stop ←
    if s.isAt '.' afterWhole then
      let fraction := digitsFrom? s (afterWhole + 1)
      if whole.isNone && fraction.isNone then none
      else
        let afterFraction := fraction.getD (afterWhole + 1)
        some ((exponentFrom? s afterFraction).getD afterFraction)
    else if whole.isNone then none
    else exponentFrom? s afterWhole
  return skipOne s (fun c => c == 'j' || c == 'J') stop

/-! ## The texts of terminals -/

/-- The end of a run of exactly so many characters of a class. -/
def exactlyFrom? (s : Source) (p : Char → Bool) : Nat → Nat → Option Nat
  | 0, offset => some offset
  | n + 1, offset => if s.satisfiesAt p offset then exactlyFrom? s p n (offset + 1) else none

/-- The end of a line break, with or without a carriage return. -/
def lineBreakFrom? (s : Source) (offset : Nat) : Option Nat :=
  let stop := skipOne s (· == '\r') offset
  if s.isAt '\n' stop then some (stop + 1) else none

/-- The end of a backslash that joins a line to the next one.  A null character after
a backslash counts as a line break. -/
def lineContinuationFrom? (s : Source) (offset : Nat) : Option Nat :=
  if s.isAt '\\' offset then
    if s.isAt '\x00' (offset + 1) then some (offset + 2)
    else lineBreakFrom? s (offset + 1)
  else none

/-- The end of a character name in braces. -/
def characterNameFrom? (s : Source) (offset : Nat) : Option Nat :=
  let stop := spanUntil s (fun c => c == '\x7d' || c == '\x00') (offset + 1)
  if s.isAt '\x7b' offset && offset + 1 < stop && s.isAt '\x7d' stop then some (stop + 1)
  else none

/-- The end of an escape sequence. -/
def escapeSequenceFrom? (s : Source) (offset : Nat) : Option Nat :=
  let next := offset + 1
  if s.isAt '\\' offset then
    if s.isAt 'u' next then exactlyFrom? s isHexDigit 4 (next + 1)
    else if s.isAt 'U' next then exactlyFrom? s isHexDigit 8 (next + 1)
    else if s.isAt 'x' next then exactlyFrom? s isHexDigit 2 (next + 1)
    else if s.isAt 'N' next then characterNameFrom? s (next + 1)
    else if s.satisfiesAt ("'\"abfrntv\\".contains ·) next then some (next + 1)
    else exactlyFrom? s Char.isDigit 3 next <|> lineBreakFrom? s next
  else none

/-- The end of an identifier. -/
def identifierFrom? (s : Source) (offset : Nat) : Option Nat :=
  if s.satisfiesAt Identifier.isStart offset then
    some (spanFrom s Identifier.isContinue (offset + 1))
  else none

/-- The end of a comment. -/
def commentFrom? (s : Source) (offset : Nat) : Option Nat :=
  if s.isAt '#' offset then
    some (spanUntil s (fun c => c == '\n' || c == '\x00') (offset + 1))
  else none

/-- The end of the text of a format specifier, which no brace and no line break ends. -/
def formatTextFrom? (s : Source) (offset : Nat) : Option Nat :=
  let stop := spanUntil s
    (fun c => c == '\x7b' || c == '\x7d' || c == '\n' || c == '\x00') offset
  if offset < stop then some stop else none

namespace Terminal

/-- The end of the longest text of a terminal at an offset, for the terminals whose
texts do not depend on what was read before. -/
def longest? (s : Source) (offset : Nat) : Terminal → Option Nat
  | literal text _ => literalFrom? s text.toList offset
  | identifier => identifierFrom? s offset
  | integer => integerFrom? s offset
  | float => floatFrom? s offset
  | comment => commentFrom? s offset
  | lineContinuation => lineContinuationFrom? s offset
  | escapeSequence => escapeSequenceFrom? s offset
  | loneBackslash => literalFrom? s ['\\'] offset
  | typeConversion =>
    if s.isAt '!' offset && s.satisfiesAt Char.isLower (offset + 1) then some (offset + 2)
    else none
  | formatText => formatTextFrom? s offset
  | newline | indent | dedent | stringStart | stringContent | escapeInterpolation
  | stringEnd => none

end Terminal

end PythonStyle.Language
