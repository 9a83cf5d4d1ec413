import PythonStyle.Text.Utf8

/-!
# Sources

A source is the sequence of glyphs that the parser reads.  A glyph is a
character, or a byte that belongs to no well-formed character: such a byte may
stand in a comment or in a string, where any glyph may, and nowhere else.

Main definitions:

- `Source.ofText` and `Source.ofBytes` read a source from text and from raw bytes.
- `Source.row` and `Source.column` locate an offset; rows count newlines only.
- `Source.rows` are the rows themselves.
- `Source.textBetween` is the text of a span, empty when the span holds a stray byte.
- `Source.text?` is the whole text, when every byte belongs to a character.
- `decode?` is the text that bytes encode.
-/

namespace PythonStyle

/-- A unit of a source: a character, or a byte outside every character. -/
inductive Glyph where
  | char (c : Char)
  | stray (byte : UInt8)
  deriving DecidableEq, Inhabited

namespace Glyph

/-- Whether a glyph is a character of a class; a stray byte is in none. -/
def satisfies (p : Char → Bool) : Glyph → Bool
  | char c => p c
  | stray _ => false

/-- Whether a glyph is one given character. -/
def is (g : Glyph) (c : Char) : Bool :=
  g.satisfies (· == c)

/-- The character of a glyph, if it is one. -/
def char? : Glyph → Option Char
  | char c => some c
  | stray _ => none

@[simp] theorem char?_char (c : Char) : (Glyph.char c).char? = some c := rfl

@[simp] theorem char?_stray (b : UInt8) : (Glyph.stray b).char? = none := rfl

@[simp] theorem is_char (c d : Char) : (Glyph.char c).is d = (c == d) := rfl

@[simp] theorem is_stray (b : UInt8) (d : Char) : (Glyph.stray b).is d = false := rfl

end Glyph

/-- The glyphs of a file in order. -/
structure Source where
  glyphs : Array Glyph
  deriving Inhabited

/-! ## Reading bytes -/

namespace Utf8

/-- Reads bytes as characters, in order; a byte that starts no shortest
well-formed character stands for itself. -/
def glyphs : List UInt8 → List Glyph
  | [] => []
  | a :: rest =>
    match hfirst : first? (a :: rest) with
    | some (c, more) =>
      have _hshorter := length_lt_of_first? hfirst
      .char c :: glyphs more
    | none => .stray a :: glyphs rest
termination_by bytes => bytes.length
decreasing_by
  · assumption
  · exact Nat.lt_add_one rest.length

end Utf8

namespace Source

/-- The source of a text. -/
def ofText (text : String) : Source :=
  ⟨(text.toList.map Glyph.char).toArray⟩

/-- The source of a file's bytes. -/
def ofBytes (bytes : List UInt8) : Source :=
  ⟨(Utf8.glyphs bytes).toArray⟩

/-- The number of glyphs. -/
def size (s : Source) : Nat := s.glyphs.size

/-- The glyph at an offset, if the source reaches so far. -/
def glyph? (s : Source) (offset : Nat) : Option Glyph := s.glyphs[offset]?

/-- Whether a character of a class stands at an offset. -/
def satisfiesAt (s : Source) (p : Char → Bool) (offset : Nat) : Bool :=
  (s.glyph? offset).any (·.satisfies p)

/-- Whether a given character stands at an offset. -/
def isAt (s : Source) (c : Char) (offset : Nat) : Bool :=
  s.satisfiesAt (· == c) offset

/-- The row of an offset: the number of newlines before it. -/
def row (s : Source) (offset : Nat) : Nat :=
  s.glyphs.foldl (fun rows g => if g.is '\n' then rows + 1 else rows) 0 0 offset

/-- The column of an offset: the number of glyphs since the last newline before it. -/
def column (s : Source) : Nat → Nat
  | 0 => 0
  | offset + 1 => if s.isAt '\n' offset then 0 else s.column offset + 1

/-- Cuts glyphs at the newlines, which belong to no row; there is always one row. -/
def splitRows : List Glyph → List (List Glyph)
  | [] => [[]]
  | g :: rest =>
    if g.is '\n' then [] :: splitRows rest
    else match splitRows rest with
      | [] => [[g]]
      | row :: more => (g :: row) :: more

/-- The rows of a source, without their newlines. -/
def rows (s : Source) : List (List Glyph) := splitRows s.glyphs.toList

/-- Counting on from a number adds the number of newlines to it. -/
theorem foldl_newline (glyphs : List Glyph) (rows : Nat) :
    glyphs.foldl (fun rows g => if g.is '\n' then rows + 1 else rows) rows =
      rows + glyphs.countP (·.is '\n') := by
  induction glyphs generalizing rows with
  | nil => rfl
  | cons g rest ih =>
      rw [List.foldl_cons, ih, List.countP_cons]
      by_cases h : g.is '\n' = true
      · simp [h]
        omega
      · simp [h]

/-- Rows are counted over the glyphs before the offset. -/
theorem row_eq (s : Source) (offset : Nat) :
    s.row offset = (s.glyphs.toList.take offset).countP (·.is '\n') := by
  rw [row, Array.foldl_eq_foldl_extract, ← Array.foldl_toList, foldl_newline, Nat.zero_add]
  simp

/-- The text of glyphs that are all characters. -/
def textOf? (glyphs : List Glyph) : Option String :=
  (glyphs.mapM Glyph.char?).map String.ofList

/-- The whole text, if no byte is stray. -/
def text? (s : Source) : Option String :=
  textOf? s.glyphs.toList

/-- The text of a span, empty when a byte in it is stray. -/
def textBetween (s : Source) (start stop : Nat) : String :=
  (textOf? (s.glyphs.extract start stop).toList).getD ""

/-- A character of a text is a glyph of its source. -/
@[simp] theorem glyphs_ofText (text : String) :
    (ofText text).glyphs.toList = text.toList.map Glyph.char := by
  simp [ofText]

end Source

/-- The text that bytes encode, if they encode one. -/
def decode? (bytes : List UInt8) : Option String :=
  (Source.ofBytes bytes).text?

end PythonStyle
