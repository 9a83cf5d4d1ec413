import PythonStyle.Facts.Assignments
import PythonStyle.Tree.Cursor

/-!
# Functions of a file

Every function definition counts, however deep it stands, except those that start
with `async`.

Main definitions:

- `functionNodes`: the definitions that count, an outer one before those in it.
- `fileFacts`: the facts about all of them.
-/

namespace PythonStyle

/-- Whether a definition starts with `async`. -/
def isAsync (t : Tree) : Bool :=
  t.children.head?.any (·.kind == "async")

/-- The nodes of the functions that count, in preorder. -/
def functionNodes (t : Tree) : List Tree :=
  t.preorder.filter fun n => n.kind == "function_definition" && !isAsync n

/-- A function that counts is a node of the tree. -/
theorem mem_preorder_of_mem_functionNodes {root t : Tree} (h : t ∈ functionNodes root) :
    t ∈ root.preorder :=
  (List.mem_filter.mp h).1

/-- The facts about a function. -/
def functionFacts (s : Source) (t : Tree) : Function :=
  let (params, defaults) := ((t.child? "parameters").map (parameterFacts s)).getD ([], [])
  { name := ((t.child? "name").map s.textOf).getD ""
    line := s.lineOf t
    params
    defaults
    assignments := ((t.child? "body").map (bodyAssignments s)).getD [] }

theorem params_functionFacts (s : Source) (t : Tree) :
    (functionFacts s t).params =
      (((t.child? "parameters").map (parameterFacts s)).getD ([], [])).1 := rfl

theorem defaults_functionFacts (s : Source) (t : Tree) :
    (functionFacts s t).defaults =
      (((t.child? "parameters").map (parameterFacts s)).getD ([], [])).2 := rfl

theorem assignments_functionFacts (s : Source) (t : Tree) :
    (functionFacts s t).assignments = ((t.child? "body").map (bodyAssignments s)).getD [] := rfl

/-- The assignments of a function are statements of its body. -/
theorem mem_assignments_functionFacts {s : Source} {t : Tree} {a : Assignment}
    (h : a ∈ (functionFacts s t).assignments) :
    ∃ body, t.child? "body" = some body ∧
      ∃ statement ∈ body.namedChildren, statementAssignment? s statement = some a := by
  rw [assignments_functionFacts] at h
  cases hbody : t.child? "body" with
  | none => simp [hbody] at h
  | some body =>
      rw [hbody, Option.map_some, Option.getD_some] at h
      exact ⟨body, rfl, List.mem_filterMap.mp h⟩

/-- The facts about the functions of a file. -/
def fileFacts (path : String) (s : Source) (t : Tree) : FileFacts :=
  ⟨path, (functionNodes t).map (functionFacts s)⟩

end PythonStyle
