import PythonStyle.Grammar.Parse
import PythonStyle.Language.Layout
import PythonStyle.Language.Rules

/-!
# Parsing Python

Joins the rules, the terminals and the layout into a parser.  At each point the
layout comes first; otherwise the longest text wins among the terminals that may
come next, blanks being skipped in front of it.  The text of a format specifier
keeps its blanks, and the escapes of a string must follow at once.

Main definitions:

- `parse?`: the parse tree of a source, if it derives from the grammar.
-/

namespace PythonStyle.Language

open Grammar (TerminalSet Table Lexer Lexeme Parse)

/-- The numbered grammar. -/
def table : Table Terminal := Table.ofGrammar grammar

/-- The numbers of the terminals. -/
def terminalNumbers : Std.HashMap Terminal Nat := Table.numbering 1 table.terminals

/-- The number of a terminal. -/
def number (t : Terminal) : Nat := terminalNumbers.getD t 0

/-- The terminals that are words, by text. -/
def words : Std.HashMap String Nat :=
  table.terminals.foldl (fun acc t =>
    match t with
    | .literal text _ => if Terminal.isWord text then acc.insert text (number t) else acc
    | _ => acc) {}

/-- The terminals that are neither words nor part of the layout, with their numbers.
Of two with equally long texts the earlier one is read. -/
def plainTerminals : Array (Nat × Terminal) :=
  let all := table.terminals.map fun t => (number t, t)
  let literals := all.filter fun (_, t) =>
    match t with
    | .literal text _ => !Terminal.isWord text
    | _ => false
  let classes := [Terminal.integer, .float, .typeConversion, .comment, .lineContinuation]
  literals ++ (classes.map fun t => (number t, t)).toArray

/-- The numbers of the terminals that the lexer asks about by name. -/
structure Numbers where
  newline : Nat
  indent : Nat
  dedent : Nat
  stringStart : Nat
  stringContent : Nat
  escapeInterpolation : Nat
  brackets : List Nat
  handler : Nat
  identifier : Nat
  formatText : Nat
  escapeSequence : Nat
  loneBackslash : Nat
  lineContinuation : Nat

/-- The numbers of those terminals in the table. -/
def numbers : Numbers where
  newline := number .newline
  indent := number .indent
  dedent := number .dedent
  stringStart := number .stringStart
  stringContent := number .stringContent
  escapeInterpolation := number .escapeInterpolation
  brackets := ["]", ")", "\x7d"].map fun text => number (.literal text none)
  handler := number (.literal "except" none)
  identifier := number .identifier
  formatText := number .formatText
  escapeSequence := number .escapeSequence
  loneBackslash := number .loneBackslash
  lineContinuation := number .lineContinuation

/-- What the layout needs to know of the terminals that may come next. -/
def expected (accepted : TerminalSet) : Expected where
  newline := accepted.contains numbers.newline
  indent := accepted.contains numbers.indent
  dedent := accepted.contains numbers.dedent
  stringStart := accepted.contains numbers.stringStart
  stringContent := accepted.contains numbers.stringContent
  escapeInterpolation := accepted.contains numbers.escapeInterpolation
  closing := numbers.brackets.any accepted.contains
  handler := accepted.contains numbers.handler

/-- A terminal read at an offset, with the end of its text and the terminal that the
text is otherwise. -/
structure Candidate where
  terminal : Nat
  start : Nat
  stop : Nat
  otherwise : Option Nat := none

namespace Candidate

/-- Of two candidates the one with the longer text, the first if neither is. -/
def longer (a : Option Candidate) (b : Option Candidate) : Option Candidate :=
  match a, b with
  | some x, some y => if x.stop < y.stop then b else a
  | some _, none => a
  | none, _ => b

/-- The candidate for one terminal at an offset. -/
def ofTerminal? (s : Source) (accepted : TerminalSet) (offset : Nat) (n : Nat)
    (t : Terminal) : Option Candidate :=
  if accepted.contains n then
    (t.longest? s offset).map fun stop => { terminal := n, start := offset, stop }
  else none

/-- The word or identifier at an offset. -/
def word? (s : Source) (accepted : TerminalSet) (offset : Nat) : Option Candidate := do
  let stop ← Terminal.identifier.longest? s offset
  let identifier := accepted.contains numbers.identifier
  match words[s.textBetween offset stop]? with
  | some n =>
    if accepted.contains n then
      some { terminal := n, start := offset, stop, otherwise := some numbers.identifier }
    else if identifier then some { terminal := numbers.identifier, start := offset, stop }
    else none
  | none =>
    if identifier then some { terminal := numbers.identifier, start := offset, stop } else none

/-- The text of a format specifier from an offset on, after line breaks. -/
def formatText? (s : Source) (accepted : TerminalSet) (offset : Nat) : Option Candidate :=
  ofTerminal? s accepted (spanFrom s (· == '\n') offset) numbers.formatText .formatText

/-- The end of the source. -/
def end? (s : Source) (accepted : TerminalSet) (offset : Nat) : Option Candidate :=
  if s.size ≤ offset && accepted.contains Grammar.endOfInput then
    some { terminal := Grammar.endOfInput, start := offset, stop := offset }
  else none

/-- The backslash that ends the source, if no blank separates it from the offset. -/
def lastBackslash? (s : Source) (offset : Nat) : Option Candidate :=
  if s.isAt '\\' offset && s.size == offset + 1 then
    some { terminal := numbers.lineContinuation, start := offset, stop := offset + 1 }
  else none

/-- The longest terminal at an offset that is not part of the layout. -/
def longest? (s : Source) (accepted : TerminalSet) (offset : Nat) : Option Candidate :=
  let escape := longer
    (ofTerminal? s accepted offset numbers.escapeSequence .escapeSequence)
    (ofTerminal? s accepted offset numbers.loneBackslash .loneBackslash)
  let start := blanksFrom s offset
  let plain := plainTerminals.foldl (fun best (n, t) =>
    longer best (ofTerminal? s accepted start n t)) none
  formatText? s accepted offset <|>
    longer escape (longer plain (word? s accepted start)) <|> end? s accepted start <|>
    lastBackslash? s offset

end Candidate

/-- The next terminal of a source at an offset. -/
def nextLexeme? (s : Source) (accepted : TerminalSet) (offset : Nat) (layout : Layout) :
    Option (Lexeme Layout) :=
  match layout.next? s (expected accepted) offset with
  | some t => some ⟨number t.terminal, none, t.start, t.stop, t.layout⟩
  | none => (Candidate.longest? s accepted offset).map fun c =>
    ⟨c.terminal, c.otherwise, c.start, c.stop, layout⟩

/-- The offset after a byte order mark at the beginning. -/
def contentStart (s : Source) : Nat :=
  if s.isAt '\uFEFF' 0 then 1 else 0

/-- How Python text is cut. -/
def lexer (s : Source) : Lexer Layout where
  initial := {}
  next accepted offset layout := nextLexeme? s accepted (max offset (contentStart s)) layout

/-- How the terminals of the table show in trees. -/
def terminalLabel (n : Nat) : Option Grammar.Label :=
  (table.terminal? n).bind Terminal.label

/-- The parse tree of a source, if it derives from the grammar. -/
def parse? (s : Source) : Option Tree := do
  let derivation ← Parse.run table (lexer s) s.size
  (derivation.trees table terminalLabel {}).head?

end PythonStyle.Language
