import PythonStyle.Text.Lines
import PythonStyle.Text.Shape

/-!
# Names

The spellings that the style asks for.  These are rules of thumb about text, not a
grammar of names: the empty name and a name of underscores alone are snake case, and
what a line says about a name is read from its characters only.

Main definitions:

- `Naming.isSnakeCase`: names of parameters.
- `Naming.isSnakeCaseTarget`: names of variables, with at most two attributes.
- `Naming.lowercaseClassName?`: the beginning of a class name that is not CamelCase.
- `Naming.isSnakeCaseDefinition`: lines that define a function in snake case.
- `Naming.uppercaseFunctionName?`: the name in a line that defines a function whose
  name starts with a capital letter.
-/

namespace PythonStyle.Naming

open Text

/-! ## Classes of characters -/

/-- Whether a character is a small letter of ASCII. -/
def isSmall (c : Char) : Bool := 'a' ≤ c && c ≤ 'z'

/-- Whether a character is a capital letter of ASCII. -/
def isCapital (c : Char) : Bool := 'A' ≤ c && c ≤ 'Z'

/-- Whether a character is a digit of ASCII. -/
def isDigit (c : Char) : Bool := '0' ≤ c && c ≤ '9'

/-- Whether a character is a small letter or a digit. -/
def isSmallOrDigit (c : Char) : Bool := isSmall c || isDigit c

/-- Whether a character is an underscore. -/
def isUnderscore (c : Char) : Bool := c == '_'

/-- Whether a character may stand in a name in snake case. -/
def isSnake (c : Char) : Bool := isSmallOrDigit c || isUnderscore c

/-! ## Parameters and variables -/

/-- A word of snake case, perhaps with one more word behind an underscore. -/
def snakeCase : Shape := [.many isSnake, .optional isUnderscore, .many isSmallOrDigit]

/-- Whether a name is in snake case. -/
def isSnakeCase (name : List Char) : Bool := snakeCase.fits name

/-- What stands in front of the attributes of a variable. -/
def variableBase : Shape := [.many isSnake]

/-- The name of an attribute: one word, perhaps with an underscore in front. -/
def attributeName : Shape := [.optional isUnderscore, .many isSmallOrDigit]

/-- The number of attributes that the name of a variable may have. -/
def maxAttributes : Nat := 2

/-- Whether a text is made of at most so many attributes, each behind a point. -/
def areAttributes : Nat → List Char → Bool
  | _, [] => true
  | 0, _ :: _ => false
  | n + 1, c :: text => c == '.' && areAttributes n (attributeName.rest text)

/-- Whether the name of a variable, with its attributes, is in snake case.  Only the
part before the first point may have inner underscores. -/
def isSnakeCaseTarget (name : List Char) : Bool :=
  areAttributes maxAttributes (variableBase.rest name)

/-! ## Classes -/

/-- Small letters with at most one capital letter among them. -/
def mixedCase : Shape := [.many isSmall, .optional isCapital, .many isSmall]

theorem takes_newline_mixedCase : ∀ slot ∈ mixedCase, slot.takes '\n' = false := by
  simp [mixedCase, Slot.takes, isSmall, isCapital]

/-- The beginning of a text that looks like a class name with a small letter in front;
it has at most one capital letter. -/
def lowercaseClassName? (text : List Char) : Option (List Char) :=
  if text.head?.any isSmall then some (mixedCase.take text) else none

/-- Whether a class name is taken for CamelCase. -/
def isCamelCaseClassName (text : List Char) : Bool :=
  (lowercaseClassName? text).isNone

/-! ## Functions -/

/-- What introduces a function on its line. -/
def definitionKeyword : List Char := "def ".toList

/-- A function name in snake case: at most two words, with at most two underscores in
front and two behind. -/
def functionName : Shape :=
  [.optional isUnderscore, .optional isUnderscore, .many isSmall, .optional isUnderscore,
    .many isSmallOrDigit, .optional isUnderscore, .optional isUnderscore]

/-- What ends the first line of a function. -/
def signatureEnd : List Char := "):".toList

/-- Whether a text is a function name in snake case with a signature behind it. -/
def startsSnakeCaseSignature (text : List Char) : Bool :=
  match functionName.rest text with
  | '(' :: signature => signatureEnd.isSuffixOf signature
  | _ => false

/-- Whether a line, without its newline, defines a function in snake case. -/
def isSnakeCaseDefinition (line : List Char) : Bool :=
  !line.contains '\n' && (afterEach definitionKeyword line).any startsSnakeCaseSignature

/-- What stands before the last parenthesis that is closed later; nothing if there is
no such parenthesis. -/
def beforeSignature (line : List Char) : List Char :=
  (after '(' (after ')' line.reverse)).reverse

/-- The name in a line that defines a function whose name starts with a capital
letter.  The name goes up to the last parenthesis that is closed later. -/
def uppercaseFunctionName? (line : List Char) : Option (List Char) :=
  ((afterEach definitionKeyword (beforeSignature (firstLine line))).filter
    fun name => name.head?.any isCapital).getLast?

end PythonStyle.Naming
