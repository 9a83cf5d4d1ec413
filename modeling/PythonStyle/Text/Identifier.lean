import PythonStyle.Text.IdentifierRanges

/-!
# Identifiers

An identifier starts with an underscore or a character that may start one, and goes
on with characters that may continue one.
-/

namespace PythonStyle.Text.Identifier

/-- Whether a character lies in one of several ranges. -/
def inRanges (ranges : Array (Nat × Nat)) (c : Char) : Bool :=
  ranges.any fun r => r.1 ≤ c.toNat && c.toNat ≤ r.2

/-- Whether a character can start an identifier. -/
def isStart (c : Char) : Bool :=
  if c.toNat < 0x80 then c.isAlpha || c == '_' else inRanges startRanges c

/-- Whether a character can continue an identifier. -/
def isContinue (c : Char) : Bool :=
  if c.toNat < 0x80 then c.isAlphanum || c == '_'
  else inRanges startRanges c || inRanges continueRanges c

end PythonStyle.Text.Identifier
