import PythonStyle.Checking.Findings
import PythonStyle.Naming

/-!
# Rules for functions

These rules judge the facts about functions: the names of parameters, the names of
variables and the defaults.  Each function is judged by the three rules in this order.
What an assignment assigns does not matter, only the name that it assigns to.

Main definitions:

- `FunctionRules.checkFunction` and `FunctionRules.checkFacts`: all rules for a
  function and for a file.
-/

namespace PythonStyle

namespace FunctionRules

/-- Judges the name of a parameter. -/
def checkParameter (file : String) (now : Findings) (p : Parameter) : Findings :=
  if Naming.isSnakeCase p.name.toList then now
  else now.report (.of file p.line .argumentName (some p.name))

/-- Judges a target of an assignment on a given line; a target that is not judged is
noted. -/
def checkTarget (file : String) (line : Nat) (now : Findings) :
    Except UnsupportedTarget Target → Findings
  | .ok target =>
    if Naming.isSnakeCaseTarget target.dotted.toList then now
    else now.report (.of file line .variableName (some target.dotted))
  | .error unsupported => now.note (.targetSkipped file unsupported)

/-- Judges the targets of an assignment. -/
def checkAssignment (file : String) (now : Findings) (a : Assignment) : Findings :=
  a.targets.foldl (checkTarget file a.line) now

/-- Judges a default: only a literal constant cannot change between calls. -/
def checkDefault (file : String) (now : Findings) (d : DefaultValue) : Findings :=
  if d.constant then now
  else (now.note (.defaultNotConstant file d)).report (.of file d.line .mutableDefault none)

/-- Judges a function. -/
def checkFunction (file : String) (now : Findings) (f : Function) : Findings :=
  let now := f.params.foldl (checkParameter file) now
  let now := f.assignments.foldl (checkAssignment file) now
  f.defaults.foldl (checkDefault file) now

/-- Judges the functions of a file. -/
def checkFacts (now : Findings) (facts : FileFacts) : Findings :=
  facts.functions.foldl (checkFunction facts.path) now

end FunctionRules

end PythonStyle
