import Mathlib.Data.List.Basic

/-!
# Reading JSON

A reader for all of JSON, to hold reports against.  It is a machine that takes one character
after the other: one part of it knows where in a token it stands, and the other one puts
tokens together, with a stack of the arrays and objects that are open.  Blanks may stand
between any two tokens, all escapes and all forms of numbers are understood, and what is no
JSON text is refused.

Main definitions:

- `Value`: what a JSON text says.
- `State.step`: puts a token behind those before it.
- `Reader.advance`: takes a character.
- `read?`: the value that a JSON text says.
-/

namespace PythonStyle.JsonReader

/-- What a JSON text says.  A number is a mantissa and a power of ten. -/
inductive Value where
  | null
  | bool (b : Bool)
  | number (mantissa exponent : Int)
  | text (s : String)
  | array (items : List Value)
  | object (members : List (String × Value))
  deriving Inhabited

/-! ## Putting tokens together -/

/-- The tokens of JSON. -/
inductive Token where
  | openArray
  | closeArray
  | openObject
  | closeObject
  | comma
  | colon
  | scalar (value : Value)

/-- The token that a character is by itself. -/
def Token.ofChar? : Char → Option Token
  | '[' => some .openArray
  | ']' => some .closeArray
  | '\x7b' => some .openObject
  | '\x7d' => some .closeObject
  | ',' => some .comma
  | ':' => some .colon
  | _ => none

/-- An array or object that waits for a value: what it holds so far, and the name that the
value will have in an object. -/
inductive Frame where
  | array (items : List Value)
  | object (members : List (String × Value)) (name : String)

/-- What may come next, inside the arrays and objects that are open. -/
inductive State where
  /-- A value, or the end of an array that is still empty. -/
  | value (outer : List Frame)
  /-- A comma or the end of an array. -/
  | afterItem (items : List Value) (outer : List Frame)
  /-- The name of a member, or the end of an object that is still empty. -/
  | key (members : List (String × Value)) (outer : List Frame)
  /-- The colon behind the name of a member. -/
  | colon (members : List (String × Value)) (name : String) (outer : List Frame)
  /-- A comma or the end of an object. -/
  | afterMember (members : List (String × Value)) (outer : List Frame)
  /-- Nothing. -/
  | done (value : Value)

namespace State

/-- Puts a value into the array or object that waits for it. -/
def give (value : Value) : List Frame → State
  | [] => done value
  | .array items :: outer => afterItem (items ++ [value]) outer
  | .object members name :: outer => afterMember (members ++ [(name, value)]) outer

/-- Puts a token behind those before it, if it may stand there. -/
def step : State → Token → Option State
  | value outer, .scalar v => some (give v outer)
  | value outer, .openArray => some (value (.array [] :: outer))
  | value outer, .openObject => some (key [] outer)
  | value (.array [] :: outer), .closeArray => some (give (.array []) outer)
  | afterItem items outer, .comma => some (value (.array items :: outer))
  | afterItem items outer, .closeArray => some (give (.array items) outer)
  | key members outer, .scalar (.text name) => some (colon members name outer)
  | key [] outer, .closeObject => some (give (.object []) outer)
  | colon members name outer, .colon => some (value (.object members name :: outer))
  | afterMember members outer, .comma => some (key members outer)
  | afterMember members outer, .closeObject => some (give (.object members) outer)
  | _, _ => none

end State

/-! ## Numbers and words -/

/-- The digits behind a point, and what stands behind them.  There is at least one digit if
there is a point. -/
def fraction? : List Char → Option (List Char × List Char)
  | '.' :: rest =>
    if rest.takeWhile Char.isDigit = [] then none
    else some (rest.takeWhile Char.isDigit, rest.dropWhile Char.isDigit)
  | rest => some ([], rest)

/-- The number that digits write, with a sign in front. -/
def signed (negative : Bool) (digits : List Char) : Int :=
  if negative then -(Nat.ofDigitChars 10 digits 0) else Nat.ofDigitChars 10 digits 0

/-- The digits of an exponent as a number. -/
def exponentDigits? (negative : Bool) (digits : List Char) : Option Int :=
  if digits ≠ [] ∧ digits.all Char.isDigit then some (signed negative digits) else none

/-- The exponent that ends a number; it is zero if nothing is left of the number. -/
def exponent? : List Char → Option Int
  | [] => some 0
  | c :: rest =>
    if c = 'e' ∨ c = 'E' then
      match rest with
      | '-' :: digits => exponentDigits? true digits
      | '+' :: digits => exponentDigits? false digits
      | digits => exponentDigits? false digits
    else none

/-- The number that a text without a sign writes. -/
def unsigned? (negative : Bool) (text : List Char) : Option Value := do
  let whole := text.takeWhile Char.isDigit
  if whole = [] ∨ whole.head? = some '0' ∧ whole ≠ ['0'] then none
  let (fraction, rest) ← fraction? (text.dropWhile Char.isDigit)
  let exponent ← exponent? rest
  return .number (signed negative (whole ++ fraction)) (exponent - fraction.length)

/-- The value that a number or a word writes. -/
def bareValue? (text : List Char) : Option Value :=
  if text = "null".toList then some .null
  else if text = "true".toList then some (.bool true)
  else if text = "false".toList then some (.bool false)
  else match text with
    | '-' :: rest => unsigned? true rest
    | _ => unsigned? false text

/-! ## Taking characters -/

/-- Where a reader stands in a token.  Inside the quotes of a text, the text before is
kept. -/
inductive Mode where
  /-- Between two tokens. -/
  | between
  /-- In a number or a word. -/
  | bare (before : List Char)
  /-- In a text. -/
  | text (before : List Char)
  /-- Behind a backslash. -/
  | escape (before : List Char)
  /-- In the four hexadecimal digits of an escape: the first half of a pair, if it has been
  read, and the values of the digits so far. -/
  | unit (before : List Char) (first : Option Nat) (digits : List Nat)
  /-- Behind the first half of a pair, in front of the backslash of the second one. -/
  | pair (before : List Char) (first : Nat)
  /-- Behind that backslash. -/
  | pairMark (before : List Char) (first : Nat)

/-- Whether a character may stand between two tokens. -/
def isBlank (c : Char) : Bool := c == ' ' || c == '\t' || c == '\n' || c == '\r'

/-- Whether a character may stand in a number or a word. -/
def isBare (c : Char) : Bool := c.isAlphanum || c == '-' || c == '+' || c == '.'

/-- The value of a hexadecimal digit. -/
def hexValue? (c : Char) : Option Nat :=
  if '0' ≤ c ∧ c ≤ '9' then some (c.toNat - '0'.toNat)
  else if 'a' ≤ c ∧ c ≤ 'f' then some (c.toNat - 'a'.toNat + 10)
  else if 'A' ≤ c ∧ c ≤ 'F' then some (c.toNat - 'A'.toNat + 10)
  else none

/-- Whether a number is the first half of a pair that stands for one character. -/
def isFirstHalf (n : Nat) : Bool := 0xD800 ≤ n && n < 0xDC00

/-- Whether a number is the second half of a pair that stands for one character. -/
def isSecondHalf (n : Nat) : Bool := 0xDC00 ≤ n && n < 0xE000

/-- Goes on behind a number of four digits.  The two halves of a pair stand together. -/
def Mode.afterUnit (before : List Char) (n : Nat) : Option Nat → Option Mode
  | none =>
    if isFirstHalf n then some (pair before n)
    else if isSecondHalf n then none
    else some (text (before ++ [Char.ofNat n]))
  | some first =>
    if isSecondHalf n then
      some (text (before ++ [Char.ofNat (0x10000 + (first - 0xD800) * 0x400 + (n - 0xDC00))]))
    else none

/-- The characters that are written by a backslash and one more character. -/
def shortEscapes : List (Char × Char) :=
  [('"', '"'), ('\\', '\\'), ('/', '/'), ('b', '\x08'), ('f', '\x0c'), ('n', '\n'), ('r', '\r'),
    ('t', '\t')]

/-- A reader: where it stands in a token, and what it has made of the tokens before. -/
structure Reader where
  mode : Mode
  state : State

namespace Reader

/-- The reader before the first character. -/
def start : Reader := ⟨.between, .value []⟩

/-- Takes a character behind a token. -/
def begin (state : State) (c : Char) : Option Reader :=
  if isBlank c then some ⟨.between, state⟩
  else if c = '"' then some ⟨.text [], state⟩
  else if isBare c then some ⟨.bare [c], state⟩
  else do return ⟨.between, ← state.step (← Token.ofChar? c)⟩

/-- Ends a number or a word. -/
def endBare (state : State) (before : List Char) : Option State := do
  state.step (.scalar (← bareValue? before))

/-- Takes a character. -/
def advance (r : Reader) (c : Char) : Option Reader :=
  match r.mode with
  | .between => begin r.state c
  | .bare before =>
    if isBare c then some ⟨.bare (before ++ [c]), r.state⟩
    else do begin (← endBare r.state before) c
  | .text before =>
    if c = '"' then do return ⟨.between, ← r.state.step (.scalar (.text (String.ofList before)))⟩
    else if c = '\\' then some ⟨.escape before, r.state⟩
    else if c.toNat < 0x20 then none
    else some ⟨.text (before ++ [c]), r.state⟩
  | .escape before =>
    if c = 'u' then some ⟨.unit before none [], r.state⟩
    else (shortEscapes.lookup c).map fun x => ⟨.text (before ++ [x]), r.state⟩
  | .unit before first digits => do
    let digits := digits ++ [← hexValue? c]
    if digits.length < 4 then return ⟨.unit before first digits, r.state⟩
    else return ⟨← Mode.afterUnit before (digits.foldl (fun n d => n * 16 + d) 0) first, r.state⟩
  | .pair before first => if c = '\\' then some ⟨.pairMark before first, r.state⟩ else none
  | .pairMark before first =>
    if c = 'u' then some ⟨.unit before (some first) [], r.state⟩ else none

/-- What has been read when the text ends, if it may end there. -/
def finish (r : Reader) : Option Value := do
  let state ← match r.mode with
    | .between => some r.state
    | .bare before => endBare r.state before
    | _ => none
  match state with
  | .done value => some value
  | _ => none

/-- Takes characters one after the other. -/
def run (r : Reader) (text : List Char) : Option Reader := text.foldlM advance r

end Reader

/-- The value that a JSON text says. -/
def read? (text : List Char) : Option Value := do (← Reader.start.run text).finish

end PythonStyle.JsonReader
