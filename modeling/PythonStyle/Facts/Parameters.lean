import PythonStyle.Facts.Basic
import PythonStyle.Source
import PythonStyle.Tree.Basic

/-!
# Parameter lists

A parameter list is read up to the first thing that only keywords can reach: a lone
star, a starred parameter, or a typed parameter that is starred.  Before that, the
parameters in front of a slash are positional only: they give defaults but no names.

Main definitions:

- `ParameterNode.classify`: what a node of a parameter list is.
- `parameterFacts`: the names and defaults of a parameter list.
- `requiredAfterDefault`: whether a parameter without a default follows one with a
  default.
-/

namespace PythonStyle

/-- The line of a node: the row where it starts, counted from one. -/
def Source.lineOf (s : Source) (t : Tree) : Nat :=
  s.row t.start + 1

/-- The text of a node. -/
def Source.textOf (s : Source) (t : Tree) : String :=
  s.textBetween t.start t.stop

/-! ## Defaults -/

/-- Removes parentheses around an expression.  What stands first in the parentheses
takes the place of the expression, be it a comment. -/
def unparenthesized (t : Tree) : Tree :=
  if t.kind = "parenthesized_expression" then
    match _h : t.namedChildren with
    | inner :: _ => unparenthesized inner
    | [] => t
  else t
termination_by sizeOf t
decreasing_by
  exact Tree.sizeOf_lt_of_mem_children
    (Tree.mem_children_of_mem_namedChildren (_h ▸ List.mem_cons_self))

/-- Whether a string node is a format string: it has an interpolation, or its
beginning has the letter for one. -/
def isFormatString (s : Source) (t : Tree) : Bool :=
  t.namedChildren.any fun c =>
    c.kind == "interpolation" ||
      (c.kind == "string_start" && (s.textOf c).toList.any fun x => x == 'f' || x == 'F')

/-- Whether an expression is a literal constant: a number, a plain string, plain
strings side by side, a truth value, nothing, or three points. -/
def isConstant (s : Source) (t : Tree) : Bool :=
  if ["integer", "float", "true", "false", "none", "ellipsis"].contains t.kind then true
  else if t.kind == "string" then !isFormatString s t
  else if t.kind == "concatenated_string" then
    t.namedChildren.all fun part => part.kind == "string" && !isFormatString s part
  else false

/-- The facts about a default. -/
def defaultValue (s : Source) (value : Tree) : DefaultValue :=
  let expression := unparenthesized value
  ⟨s.lineOf expression, expression.kind, isConstant s expression⟩

/-! ## Nodes of a parameter list -/

/-- What a node of a parameter list is. -/
inductive ParameterNode where
  /-- A parameter without a default; the node of its name. -/
  | required (name : Tree)
  /-- A parameter with a default; the nodes of its name and its default. -/
  | defaulted (name value : Option Tree)
  /-- The slash after the positional-only parameters. -/
  | slash
  /-- The end of what can be reached by position. -/
  | barrier
  /-- Anything else, such as a comment. -/
  | other

/-- Tells what a node of a parameter list is. -/
def ParameterNode.classify (t : Tree) : ParameterNode :=
  match t.kind with
  | "identifier" => .required t
  | "typed_parameter" =>
    match t.namedChildren.head? with
    | some inner => if inner.kind = "identifier" then .required inner else .barrier
    | none => .barrier
  | "default_parameter" | "typed_default_parameter" =>
    .defaulted (t.child? "name") (t.child? "value")
  | "positional_separator" => .slash
  | "keyword_separator" | "list_splat_pattern" | "dictionary_splat_pattern" => .barrier
  | _ => .other

/-- The parameters and defaults met so far, and how many parameters are
positional only. -/
structure ParameterSection where
  positional : List Parameter := []
  defaults : List DefaultValue := []
  positionalOnly : Nat := 0

/-- The facts about the name of a parameter. -/
def parameterOf (s : Source) (name : Tree) : Parameter :=
  ⟨s.textOf name, s.lineOf name⟩

/-- Reads the nodes of a parameter list up to the first barrier. -/
def ParameterSection.read (s : Source) : List Tree → ParameterSection → ParameterSection
  | [], now => now
  | t :: rest, now =>
    match ParameterNode.classify t with
    | .required name =>
      read s rest { now with positional := now.positional ++ [parameterOf s name] }
    | .defaulted name value =>
      read s rest { now with
        positional := now.positional ++ (name.map (parameterOf s)).toList
        defaults := now.defaults ++ (value.map (defaultValue s)).toList }
    | .slash => read s rest { now with positionalOnly := now.positional.length }
    | .barrier => now
    | .other => read s rest now

/-- The named parameters and the defaults of a parameter list. -/
def parameterFacts (s : Source) (t : Tree) : List Parameter × List DefaultValue :=
  let all := ParameterSection.read s t.namedChildren {}
  (all.positional.drop all.positionalOnly, all.defaults)

/-- Whether, up to the first barrier, a parameter without a default follows one with a
default; the flag says whether one with a default was met. -/
def requiredAfter : Bool → List Tree → Bool
  | _, [] => false
  | met, t :: rest =>
    match ParameterNode.classify t with
    | .required _ => met || requiredAfter met rest
    | .defaulted _ _ => requiredAfter true rest
    | .barrier => false
    | .slash | .other => requiredAfter met rest

/-- Whether a parameter list has a parameter without a default after one with a
default. -/
def requiredAfterDefault (t : Tree) : Bool :=
  requiredAfter false t.namedChildren

end PythonStyle
