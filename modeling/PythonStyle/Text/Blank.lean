/-!
# Blank characters

The characters with the Unicode property White_Space.
-/

namespace PythonStyle.Text

/-- Whether a character has the property White_Space. -/
def isBlank (c : Char) : Bool :=
  let n := c.toNat
  n == 0x20 || (0x09 ≤ n && n ≤ 0x0D) || n == 0x85 || n == 0xA0 || n == 0x1680 ||
    (0x2000 ≤ n && n ≤ 0x200A) || n == 0x2028 || n == 0x2029 || n == 0x202F ||
    n == 0x205F || n == 0x3000

@[simp] theorem isBlank_newline : isBlank '\n' = true := by decide

@[simp] theorem isBlank_space : isBlank ' ' = true := by decide

end PythonStyle.Text
