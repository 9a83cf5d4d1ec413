import Mathlib.Data.List.Basic
import PythonStyle.Facts.Basic

/-!
# Names of targets

The name of a target shows its parts with points between them.  If no part has a point of its own,
the name can be cut at its points, and the number of pieces tells what kind of target it was.

Main definitions:

- `Target.parts`: the parts of a target, the variable first.
- `Target.PointFree`: targets none of whose parts has a point.
- `Target.ofName?`: reads a name as a target.

Main results:

- Theorem `Target.dotted_eq_intercalate`: a name is its parts joined by points.
- Theorem `Target.splitOn_dotted`: cutting a name gives its parts back.
- Theorems `Target.ofName?_dotted` and `Target.eq_of_dotted_eq`: a name tells its target.
-/

namespace PythonStyle

namespace Target

/-- The parts of a target: a variable, and the attributes behind it. -/
def parts : Target → List String
  | simple name => [name]
  | member base attr => [base, attr]
  | nested base mid attr => [base, mid, attr]

/-- Whether no part of a target has a point. -/
def PointFree (t : Target) : Prop := ∀ part ∈ t.parts, '.' ∉ part.toList

/-- The target with given parts, if there is one. -/
def ofParts? : List String → Option Target
  | [name] => some (simple name)
  | [base, attr] => some (member base attr)
  | [base, mid, attr] => some (nested base mid attr)
  | _ => none

/-- The target that a name shows: the name is cut at each point. -/
def ofName? (name : String) : Option Target :=
  ofParts? ((name.toList.splitOn '.').map String.ofList)

theorem parts_ne_nil (t : Target) : t.parts ≠ [] := by
  cases t <;> simp [parts]

/-- A target has at most two attributes. -/
theorem length_parts_le (t : Target) : t.parts.length ≤ 3 := by
  cases t <;> simp [parts]

@[simp] theorem ofParts?_parts (t : Target) : ofParts? t.parts = some t := by
  cases t <;> rfl

/-- Two targets with the same parts are the same. -/
theorem parts_injective {t u : Target} (h : t.parts = u.parts) : t = u := by
  have hparts : ofParts? t.parts = ofParts? u.parts := congrArg ofParts? h
  simpa using hparts

/-- A name is its parts joined by points. -/
theorem dotted_eq_intercalate (t : Target) : t.dotted = ".".intercalate t.parts := by
  cases t <;> simp [parts, String.append_assoc]

/-- Cutting a name at its points gives the parts back, if they have no points. -/
theorem splitOn_dotted {t : Target} (h : t.PointFree) :
    t.dotted.toList.splitOn '.' = t.parts.map String.toList := by
  have hpoint : ".".toList = ['.'] := by decide
  have hparts : ∀ piece ∈ t.parts.map String.toList, '.' ∉ piece := by
    intro piece hpiece
    obtain ⟨part, hpart, rfl⟩ := List.mem_map.mp hpiece
    exact h part hpart
  have hne : t.parts.map String.toList ≠ [] := by simpa using t.parts_ne_nil
  rw [dotted_eq_intercalate, String.toList_intercalate, hpoint,
    List.splitOn_intercalate '.' hparts hne]

/-- A name shows its target. -/
theorem ofName?_dotted {t : Target} (h : t.PointFree) : ofName? t.dotted = some t := by
  rw [ofName?, splitOn_dotted h, List.map_map]
  simp [Function.comp_def]

/-- Two targets with the same name are the same. -/
theorem eq_of_dotted_eq {t u : Target} (ht : t.PointFree) (hu : u.PointFree)
    (h : t.dotted = u.dotted) : t = u := by
  have hread := ofName?_dotted ht
  rw [h, ofName?_dotted hu] at hread
  exact (Option.some.inj hread).symm

/-- A part with a point is taken for two. -/
example : ofName? (simple "a.b").dotted = some (member "a" "b") := by decide

end Target

end PythonStyle
