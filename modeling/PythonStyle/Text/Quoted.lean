import PythonStyle.Source
import PythonStyle.Text.HiddenRanges

/-!
# Quoted text

Bytes between double quotes, as the text that they spell.  Quotes, backslashes, characters that
cannot be shown by themselves and bytes that belong to no character are escaped.
-/

namespace PythonStyle.Text.Quoted

/-- Whether a character cannot be shown by itself. -/
def isHidden (c : Char) : Bool :=
  if 0x20 ≤ c.toNat ∧ c.toNat < 0x7F then false
  else hiddenRanges.any fun r => r.1 ≤ c.toNat && c.toNat ≤ r.2

/-- A character as it is written between quotes. -/
def encodeChar (c : Char) : List Char :=
  if c = '"' ∨ c = '\\' then ['\\', c]
  else if c = '\n' then ['\\', 'n']
  else if c = '\r' then ['\\', 'r']
  else if c = '\t' then ['\\', 't']
  else if c = '\x00' then ['\\', '0']
  else if isHidden c then "\\u\x7b".toList ++ Nat.toDigits 16 c.toNat ++ "\x7d".toList
  else [c]

/-- A byte that belongs to no character, as it is written between quotes: always by two digits, as
such a byte is sixteen at least. -/
def encodeByte (byte : UInt8) : List Char :=
  ['\\', 'x'] ++ (Nat.toDigits 16 byte.toNat).map Char.toUpper

/-- What is written between quotes for a glyph. -/
def encodeGlyph : Glyph → List Char
  | .char c => encodeChar c
  | .stray byte => encodeByte byte

/-- Bytes in quotes. -/
def encode (bytes : List UInt8) : String :=
  String.ofList ('"' :: (Utf8.glyphs bytes).flatMap encodeGlyph ++ ['"'])

end PythonStyle.Text.Quoted
