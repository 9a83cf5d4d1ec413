import PythonStyle.Facts.Functions
import PythonStyle.Indentation

/-!
# Accepted sources

The grammar derives more than Python 3 allows.  A tree is accepted when it holds no
statement of Python 2, no parameter list with a required parameter after a default,
and no ambiguous tabs.

Main definitions:

- `Parser`: how a source is turned into a tree.
- `rejectedConstruct`: whether a tree holds something that Python 3 rejects.
- `accepted?`: the tree of a source that is accepted.
-/

namespace PythonStyle

/-- A way to turn sources into trees. -/
abbrev Parser := Source → Option Tree

/-- The statements that only Python 2 knows. -/
def legacyKinds : List String := ["print_statement", "exec_statement"]

/-- Whether a node by itself makes a tree unacceptable. -/
def isRejected (t : Tree) : Bool :=
  legacyKinds.contains t.kind ||
    ((t.kind == "parameters" || t.kind == "lambda_parameters") && requiredAfterDefault t)

/-- Whether a tree holds something that Python 3 rejects. -/
def rejectedConstruct (t : Tree) : Bool :=
  t.any fun c => isRejected c.focus

/-- The tree of a source, if it parses and is accepted. -/
def accepted? (parser : Parser) (s : Source) : Option Tree := do
  let t ← parser s
  if rejectedConstruct t || ambiguousTabs s t then none else some t

end PythonStyle
