/-!
# Facts about functions

What the rules for functions judge: the names and defaults of parameters and the
targets of assignments, each with the line where it stands.
-/

namespace PythonStyle

/-- A parameter and the line of its name. -/
structure Parameter where
  name : String
  line : Nat
  deriving DecidableEq, Repr, Inhabited

/-- The default of a parameter: the line and kind of its expression, parentheses
removed, and whether it is a literal constant. -/
structure DefaultValue where
  line : Nat
  kind : String
  constant : Bool
  deriving DecidableEq, Repr, Inhabited

/-- An assignment target whose name can be judged. -/
inductive Target where
  | simple (name : String)
  | member (base attr : String)
  | nested (base mid attr : String)
  deriving DecidableEq, Repr, Inhabited

namespace Target

/-- The name of a target, its parts joined by points. -/
def dotted : Target → String
  | simple name => name
  | member base attr => base ++ "." ++ attr
  | nested base mid attr => base ++ "." ++ mid ++ "." ++ attr

@[simp] theorem dotted_simple (name : String) : (simple name).dotted = name := rfl

@[simp] theorem dotted_member (base attr : String) :
    (member base attr).dotted = base ++ "." ++ attr := rfl

@[simp] theorem dotted_nested (base mid attr : String) :
    (nested base mid attr).dotted = base ++ "." ++ mid ++ "." ++ attr := rfl

end Target

/-- An assignment target of any other shape: its kind and line. -/
structure UnsupportedTarget where
  kind : String
  line : Nat
  deriving DecidableEq, Repr, Inhabited

namespace UnsupportedTarget

/-- What is said about a target that is not judged. -/
def message (t : UnsupportedTarget) : String :=
  "unsupported assignment target \x60" ++ t.kind ++ "\x60 on line " ++ toString t.line

end UnsupportedTarget

/-- An assignment statement: its line, and its targets from left to right. -/
structure Assignment where
  line : Nat
  targets : List (Except UnsupportedTarget Target)
  deriving Repr, Inhabited

/-- A function: its name and line, the parameters that may be passed by position or
by name, the defaults of all positional parameters, and the assignments that are
statements of its body. -/
structure Function where
  name : String
  line : Nat
  params : List Parameter
  defaults : List DefaultValue
  assignments : List Assignment
  deriving Repr, Inhabited

/-- The functions of a file. -/
structure FileFacts where
  path : String
  functions : List Function
  deriving Repr, Inhabited

end PythonStyle
