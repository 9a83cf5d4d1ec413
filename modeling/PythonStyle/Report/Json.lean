/-!
# JSON values

The values that a report is made of, and how they are written: two spaces for each
level, one item or member on a line, and nothing between the brackets of an empty
array or object.

Main definitions:

- `Json`: the values.
- `Json.encode`: a text between quotes.
- `Json.render`: a value on lines.
-/

namespace PythonStyle

/-- A value of a report. -/
inductive Json where
  | number (n : Nat)
  | text (s : String)
  | array (items : List Json)
  | object (members : List (String × Json))
  deriving Inhabited

namespace Json

/-! ## Texts -/

/-- A control character as four hexadecimal digits. -/
def encodeControl (c : Char) : List Char :=
  let digits := Nat.toDigits 16 c.toNat
  "\\u".toList ++ List.replicate (4 - digits.length) '0' ++ digits

/-- A character as it is written in a text.  Only quotes, backslashes and the first
thirty-two characters are escaped. -/
def encodeChar (c : Char) : List Char :=
  if c = '"' ∨ c = '\\' then ['\\', c]
  else if c = '\x08' then ['\\', 'b']
  else if c = '\t' then ['\\', 't']
  else if c = '\n' then ['\\', 'n']
  else if c = '\x0c' then ['\\', 'f']
  else if c = '\r' then ['\\', 'r']
  else if c.toNat < 0x20 then encodeControl c
  else [c]

/-- A text between quotes. -/
def encode (s : String) : List Char :=
  '"' :: s.toList.flatMap encodeChar ++ ['"']

/-! ## Values -/

/-- The start of a line at a level. -/
def newline (level : Nat) : List Char :=
  '\n' :: List.replicate (2 * level) ' '

mutual

/-- A value as it is written from a level on. -/
def renderAt (level : Nat) : Json → List Char
  | number n => Nat.toDigits 10 n
  | text s => encode s
  | array [] => ['[', ']']
  | array (item :: items) =>
    '[' :: newline (level + 1) ++ renderAt (level + 1) item ++ renderItems (level + 1) items ++
      newline level ++ [']']
  | object [] => ['\x7b', '\x7d']
  | object ((key, value) :: members) =>
    '\x7b' :: newline (level + 1) ++ encode key ++ [':', ' '] ++ renderAt (level + 1) value ++
      renderMembers (level + 1) members ++ newline level ++ ['\x7d']

/-- The items of an array after the first. -/
def renderItems (level : Nat) : List Json → List Char
  | [] => []
  | item :: items => ',' :: newline level ++ renderAt level item ++ renderItems level items

/-- The members of an object after the first. -/
def renderMembers (level : Nat) : List (String × Json) → List Char
  | [] => []
  | (key, value) :: members =>
    ',' :: newline level ++ encode key ++ [':', ' '] ++ renderAt level value ++
      renderMembers level members

end

/-- A value on lines. -/
def render (value : Json) : String := String.ofList (renderAt 0 value)

end Json

end PythonStyle
