import PythonStyle.Code

/-!
# Diagnostics

A diagnostic says where which rule is broken.

Main definitions:

- `Diagnostic.of`: the diagnostic of a rule.
- `Diagnostic.render`: the line that shows a diagnostic.
- `Diagnostic.sort`: diagnostics in the order of files, lines and codes; those that
  agree in all three keep their order.
-/

namespace PythonStyle

/-- A place where a rule is broken. -/
structure Diagnostic where
  file : String
  line : Nat
  code : Code
  message : String
  deriving DecidableEq, Repr, Inhabited

namespace Diagnostic

/-- The diagnostic of a rule, with the keyword or name that breaks it, if there is one. -/
def of (file : String) (line : Nat) (code : Code) (subject : Option String) : Diagnostic :=
  ⟨file, line, code, code.message subject⟩

/-- The line that shows a diagnostic. -/
def render (d : Diagnostic) : String :=
  d.file ++ ": Line " ++ toString d.line ++ ": " ++ d.code.text ++ " " ++ d.message

/-- How diagnostics are ordered: by file, then by line, then by code. -/
def order (a b : Diagnostic) : Ordering :=
  (compare a.file b.file).then <| (compare a.line b.line).then (compare a.code.index b.code.index)

/-- Sorts diagnostics; those with the same file, line and code keep their order. -/
def sort (ds : List Diagnostic) : List Diagnostic :=
  ds.mergeSort fun a b => (order a b).isLE

/-- Sorting loses nothing and adds nothing. -/
theorem sort_perm (ds : List Diagnostic) : (sort ds).Perm ds :=
  List.mergeSort_perm ds _

@[simp] theorem length_sort (ds : List Diagnostic) : (sort ds).length = ds.length :=
  List.length_mergeSort ds

end Diagnostic

end PythonStyle
