import PythonStyle.Naming
import PythonStyle.Proofs.ParameterSections

/-!
# Names on one line

Names that are made of the characters of a name have no newline, and neither have
identifiers.  A parameter with a default may have something else for a name, such as a pair
in parentheses, and that may be written on several lines.

Main definitions:

- `OneLine`: texts without a newline.
- `PlainNames`: what is relied on of the names of a tree.
- `PlainDefaults`: trees in which parameters with defaults have identifiers for names.

Main results:

- Theorem `Naming.oneLine_of_isSnakeCase`: a name in snake case stands on one line.
- Theorem `PlainNames.oneLine_functionFacts`: so do the targets that are judged in a function.
- Theorem `kind_of_mem_nameNodes`: which names of parameters are identifiers.
- Theorem `oneLine_of_plainDefaults`: the names of parameters stand on one line if parameters
  with defaults have identifiers for names.
-/

namespace PythonStyle

/-- A text without a newline. -/
def OneLine (s : String) : Prop := '\n' ∉ s.toList

instance : DecidablePred OneLine := fun s => inferInstanceAs (Decidable ('\n' ∉ s.toList))

@[simp] theorem oneLine_append {a b : String} : OneLine (a ++ b) ↔ OneLine a ∧ OneLine b := by
  simp [OneLine, not_or]

@[simp] theorem oneLine_ofList {text : List Char} :
    OneLine (String.ofList text) ↔ '\n' ∉ text := by
  simp [OneLine]

/-! ## Names by their characters -/

namespace Naming

theorem newline_not_mem_lowercaseClassName? {text name : List Char}
    (h : lowercaseClassName? text = some name) : '\n' ∉ name := by
  unfold lowercaseClassName? at h
  split at h
  · rw [← Option.some.inj h]
    exact Text.Shape.not_mem_take takes_newline_mixedCase text
  · cases h

theorem newline_not_mem_uppercaseFunctionName? {line name : List Char}
    (h : uppercaseFunctionName? line = some name) : '\n' ∉ name := by
  intro hmem
  have hname := (List.mem_filter.mp (List.mem_of_getLast? h)).1
  obtain ⟨start, hstart⟩ := Text.mem_afterEach.mp hname
  have hbefore : '\n' ∈ beforeSignature (Text.firstLine line) := by
    rw [hstart]
    exact List.mem_append_right _ (List.mem_append_right _ hmem)
  have hreverse := Text.mem_of_mem_after (List.mem_reverse.mp hbefore)
  have hline := List.mem_reverse.mp (Text.mem_of_mem_after hreverse)
  exact Text.newline_not_mem_firstLine line hline

/-- A name in snake case stands on one line. -/
theorem oneLine_of_isSnakeCase {name : String} (h : isSnakeCase name.toList) : OneLine name := by
  have hshape : ∀ slot ∈ snakeCase, slot.takes '\n' = false := by
    simp [snakeCase, Text.Slot.takes, isSnake, isSmallOrDigit, isSmall, isDigit, isUnderscore]
  have htake := Text.Shape.not_mem_take hshape name.toList
  rwa [Text.Shape.fits_iff.mp h] at htake

end Naming

/-! ## Names in a tree -/

/-- What is relied on of the names of a tree: identifiers stand on one line, and attributes
are identifiers. -/
structure PlainNames (s : Source) (root : Tree) : Prop where
  identifier : ∀ t ∈ root.preorder, t.kind = "identifier" → OneLine (s.textOf t)
  attributeName : ∀ t ∈ root.preorder, t.kind = "attribute" →
    ∀ name ∈ t.child? "attribute", name.kind = "identifier"

namespace PlainNames

variable {s : Source} {root t : Tree}

/-- The parts of an attribute are nodes of the tree, and the name of the attribute stands on
one line. -/
theorem of_attributeParts? (h : PlainNames s root) (ht : t ∈ root.preorder)
    (hkind : t.kind = "attribute") {object name : Tree}
    (hparts : attributeParts? t = some (object, name)) :
    object ∈ root.preorder ∧ OneLine (s.textOf name) := by
  obtain ⟨hobject, hname⟩ := attributeParts?_eq_some_iff.mp hparts
  exact ⟨Tree.mem_preorder_of_child? ht hobject,
    h.identifier _ (Tree.mem_preorder_of_child? ht hname) (h.attributeName t ht hkind _ hname)⟩

/-- A target that is judged stands on one line. -/
theorem oneLine_dotted (h : PlainNames s root) (ht : t ∈ root.preorder) {target : Target}
    (htarget : resolveTarget s t = .ok target) : OneLine target.dotted := by
  have hpoint : OneLine "." := by decide
  rcases resolveTarget_eq_ok htarget with ⟨hkind, rfl⟩ | ⟨hkind, object, name, hparts, hobject⟩
  · exact h.identifier t ht hkind
  · obtain ⟨hmem, hname⟩ := h.of_attributeParts? ht hkind hparts
    rcases hobject with ⟨hobject, rfl⟩ | ⟨hobject, base, mid, hparts, hbase, rfl⟩
    · simp [hpoint, hname, h.identifier object hmem hobject]
    · obtain ⟨hmem, hmid⟩ := h.of_attributeParts? hmem hobject hparts
      simp [hpoint, hname, hmid, h.identifier base hmem hbase]

/-- The targets of a chain of assignments are nodes of the tree. -/
theorem mem_preorder_of_mem_chainTargets (ht : t ∈ root.preorder) {target : Tree}
    (h : target ∈ chainTargets t) : target ∈ root.preorder := by
  fun_induction chainTargets t with
  | case1 t hplain ih =>
      rcases List.mem_append.mp h with h | h
      · exact Tree.mem_preorder_of_child? ht (Option.mem_toList.mp h)
      · split at h
        · next right hright => exact ih right hright (Tree.mem_preorder_of_child? ht hright) h
        · cases h
  | case2 => cases h

/-- The targets that are judged in a function stand on one line each. -/
theorem oneLine_functionFacts (h : PlainNames s root) (ht : t ∈ root.preorder) :
    ∀ a ∈ (functionFacts s t).assignments, ∀ target, .ok target ∈ a.targets →
      OneLine target.dotted := by
  intro a ha target htarget
  obtain ⟨body, hbody, statement, hstatement, ha⟩ := mem_assignments_functionFacts ha
  obtain ⟨expression, hexpression, rfl⟩ := statementAssignment?_eq_some ha
  obtain ⟨node, hnode, hresolve⟩ := List.mem_map.mp htarget
  have hbody := Tree.mem_preorder_of_child? ht hbody
  have hstatement := Tree.mem_preorder_of_mem_namedChildren hbody hstatement
  have hexpression := Tree.mem_preorder_of_mem_namedChildren hstatement
    (List.mem_of_head? hexpression)
  exact h.oneLine_dotted (mem_preorder_of_mem_chainTargets hexpression hnode) hresolve

end PlainNames

/-! ## Names of parameters -/

open ParameterNode ParameterList

/-- Trees in which parameters with defaults have identifiers for names. -/
def PlainDefaults (root : Tree) : Prop :=
  ∀ t ∈ root.preorder, t.kind = "default_parameter" ∨ t.kind = "typed_default_parameter" →
    ∀ name ∈ t.child? "name", name.kind = "identifier"

/-- The names of a parameter list are identifiers, if those of parameters with defaults are. -/
theorem kind_of_mem_nameNodes {root t name : Tree} (h : PlainDefaults root)
    (ht : t ∈ root.preorder) (hname : name ∈ nameNodes (behindSlash (reachable t))) :
    name.kind = "identifier" := by
  obtain ⟨c, hc, hname⟩ := List.mem_filterMap.mp hname
  obtain ⟨hc, hnamed⟩ := List.mem_filter.mp hc
  obtain ⟨hmem, hbarrier⟩ := mem_reachable (mem_of_mem_behindSlash hc)
  have hmem := Tree.mem_preorder_of_mem_namedChildren ht hmem
  rcases name?_cases hnamed hbarrier with ⟨identifier, hc, hkind⟩ | ⟨hdefaulted, hc⟩
  · exact Option.some.inj (hname.symm.trans hc) ▸ hkind
  · have hkind : c.kind = "default_parameter" ∨ c.kind = "typed_default_parameter" := by
      simpa [isDefaulted] using hdefaulted
    exact h c hmem hkind name (hc ▸ hname)

/-- If the identifiers of a tree stand on one line and parameters with defaults have
identifiers for names, the names of all parameters that are judged stand on one line. -/
theorem oneLine_of_plainDefaults {s : Source} {root t : Tree} (hplain : PlainNames s root)
    (hdefaults : PlainDefaults root) (ht : t ∈ root.preorder) :
    ∀ p ∈ (functionFacts s t).params, OneLine p.name := by
  intro p hp
  obtain ⟨list, hlist, name, hname, rfl⟩ := mem_params_functionFacts hp
  have hlist := Tree.mem_preorder_of_child? ht hlist
  exact hplain.identifier name (mem_preorder_of_mem_nameNodes hlist hname)
    (kind_of_mem_nameNodes hdefaults hlist hname)

end PythonStyle
