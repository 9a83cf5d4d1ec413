import PythonStyle.Facts.Functions
import PythonStyle.Proofs.Addresses

/-!
# Where functions and their assignments stand

The functions of a file are collected from everywhere in its tree, the assignments of a function
only from the statements of its own body.  This module says from which places the facts about a
file come, and that no place is lost or used twice.

Main definitions:

- `Tree.childIndex?`: the number of the child that bears a field.
- `FunctionAt`: a place where a function that counts is defined.
- `AssignmentIn`: a place where a statement of the body of such a function assigns.

Main results:

- Theorem `exists_places_functions`: the places of the functions of a file.
- Theorem `exists_places_assignments`: the places of the assignments of a function.
- Theorem `functions_places`: each function of a file comes from a place of its own, and so does
  each of its assignments.
-/

namespace PythonStyle

/-! ## Children -/

namespace Tree

/-- The number of the first child that bears a field. -/
def childIndex? (t : Tree) (field : String) : Option Nat :=
  t.children.findIdx? fun c => c.field == some field

/-- The child that bears a field is the one with its number. -/
theorem child?_eq_some_iff {t c : Tree} {field : String} :
    t.child? field = some c ↔ ∃ i, t.childIndex? field = some i ∧ t.children[i]? = some c := by
  rw [child?, List.find?_eq_bind_findIdx?_getElem?]
  exact Option.bind_eq_some_iff

end Tree

/-! ## Functions -/

/-- Whether a function that counts is defined at a place. -/
def FunctionAt (root : Tree) (p : Address) : Prop :=
  ∃ f, root.at? p = some f ∧ f.kind = "function_definition" ∧ isAsync f = false

/-- The functions of a file stand at the places of all definitions that count, in preorder. -/
theorem exists_places_functions (root : Tree) :
    ∃ places, InPreorder places ∧ (∀ p, p ∈ places ↔ FunctionAt root p) ∧
      List.Forall₂ (fun p f => root.at? p = some f) places (functionNodes root) := by
  obtain ⟨places, horder, hmem, hnodes⟩ := root.exists_places_preorder
    fun n => n.kind == "function_definition" && !isAsync n
  refine ⟨places, horder, fun p => ?_, hnodes⟩
  simpa [FunctionAt] using hmem p

/-! ## Assignments -/

/-- Whether a node is a statement whose expression is an assignment without a type. -/
def IsAssignmentStatement (t : Tree) : Prop :=
  t.isNamed = true ∧ t.kind = "expression_statement" ∧
    ∃ expression, t.namedChildren.head? = some expression ∧ expression.kind = "assignment" ∧
      expression.child? "type" = none

/-- Whether a statement directly in the body of the function at one place stands at another place
and assigns. -/
def AssignmentIn (root : Tree) (p q : Address) : Prop :=
  ∃ f i j statement, root.at? p = some f ∧ f.kind = "function_definition" ∧ isAsync f = false ∧
    f.childIndex? "body" = some i ∧ q = p ++ [i, j] ∧ root.at? q = some statement ∧
    IsAssignmentStatement statement

/-- A statement gives an assignment exactly if it is one. -/
theorem isSome_statementAssignment?_iff (s : Source) (t : Tree) :
    (t.isNamed && (statementAssignment? s t).isSome) = true ↔ IsAssignmentStatement t := by
  rw [Bool.and_eq_true, IsAssignmentStatement, statementAssignment?]
  by_cases hkind : t.kind = "expression_statement"
  · cases hhead : t.namedChildren.head? with
    | none => simp [hkind]
    | some expression =>
        by_cases hplain : isPlainAssignment expression = true
        · simp_all [isPlainAssignment]
        · simp_all [isPlainAssignment]
  · simp [hkind]

/-- The assignments of a body come from the statements among its children, in their order. -/
theorem forall₂_bodyAssignments (s : Source) (body : Tree) :
    List.Forall₂ (fun statement a => statementAssignment? s statement = some a)
      (body.children.filter fun c => c.isNamed && (statementAssignment? s c).isSome)
      (bodyAssignments s body) := by
  have hpicked := forall₂_filterMap (statementAssignment? s) body.namedChildren
  have hstatements : (body.namedChildren.filter fun c => (statementAssignment? s c).isSome) =
      body.children.filter fun c => c.isNamed && (statementAssignment? s c).isSome := by
    rw [Tree.namedChildren, List.filter_filter]
    exact List.filter_congr fun c _ => Bool.and_comm _ _
  exact hstatements ▸ hpicked

/-- The statements of a function that assign stand two steps below it, in its body. -/
theorem assignmentIn_iff {root f : Tree} {p q : Address} (hf : root.at? p = some f)
    (hkind : f.kind = "function_definition") (hasync : isAsync f = false) :
    AssignmentIn root p q ↔ ∃ i body, f.childIndex? "body" = some i ∧ f.children[i]? = some body ∧
      ∃ j statement, q = p ++ [i] ++ [j] ∧ root.at? q = some statement ∧
        IsAssignmentStatement statement := by
  constructor
  · rintro ⟨g, i, j, statement, hg, -, -, hindex, rfl, hstatement, hassigns⟩
    obtain rfl : f = g := Option.some.inj (hf.symm.trans hg)
    have hbelow : f.at? [i, j] = some statement := by
      rwa [Tree.at?_append, hf] at hstatement
    obtain ⟨body, hbody, -⟩ := Tree.at?_cons_eq_some_iff.mp hbelow
    exact ⟨i, body, hindex, hbody, j, statement, (List.append_assoc p [i] [j]).symm, hstatement,
      hassigns⟩
  · rintro ⟨i, body, hindex, -, j, statement, rfl, hstatement, hassigns⟩
    exact ⟨f, i, j, statement, hf, hkind, hasync, hindex, List.append_assoc p [i] [j], hstatement,
      hassigns⟩

/-- The assignments of a function stand at the places of the statements directly in its body that
assign, in their order. -/
theorem exists_places_assignments (s : Source) {root f : Tree} {p : Address}
    (hf : root.at? p = some f) (hkind : f.kind = "function_definition")
    (hasync : isAsync f = false) :
    ∃ places, InPreorder places ∧ (∀ q, q ∈ places ↔ AssignmentIn root p q) ∧
      List.Forall₂ (fun q a => ∃ statement, root.at? q = some statement ∧
        statementAssignment? s statement = some a) places (functionFacts s f).assignments := by
  simp only [assignmentIn_iff hf hkind hasync, assignments_functionFacts]
  cases hbody : f.child? "body" with
  | none =>
      refine ⟨[], .nil, fun q => iff_of_false List.not_mem_nil ?_, .nil⟩
      rintro ⟨i, body, hindex, hchild, -⟩
      have hsome : f.child? "body" = some body := Tree.child?_eq_some_iff.mpr ⟨i, hindex, hchild⟩
      cases hbody.symm.trans hsome
  | some body =>
      obtain ⟨i, hindex, hchild⟩ := Tree.child?_eq_some_iff.mp hbody
      have hat : root.at? (p ++ [i]) = some body := by
        rw [Tree.at?_append_singleton hf, hchild]
      obtain ⟨places, horder, hmem, hnodes⟩ := Tree.exists_places_children hat
        fun c => c.isNamed && (statementAssignment? s c).isSome
      refine ⟨places, horder, fun q => ?_, forall₂_comp hnodes (forall₂_bodyAssignments s body)⟩
      simp only [hmem, isSome_statementAssignment?_iff]
      constructor
      · rintro ⟨j, statement, hq, hstatement, hassigns⟩
        exact ⟨i, body, hindex, hchild, j, statement, hq, hstatement, hassigns⟩
      · rintro ⟨k, _, hk, -, j, statement, hq, hstatement, hassigns⟩
        obtain rfl : i = k := Option.some.inj (hindex.symm.trans hk)
        exact ⟨j, statement, hq, hstatement, hassigns⟩

/-! ## Files -/

/-- A statement stands in the body of one function at most. -/
theorem AssignmentIn.unique {root : Tree} {p p' q : Address} (h : AssignmentIn root p q)
    (h' : AssignmentIn root p' q) : p = p' := by
  obtain ⟨_, i, j, _, -, -, -, -, rfl, -⟩ := h
  obtain ⟨_, i', j', _, -, -, -, -, hq, -⟩ := h'
  exact (List.append_inj' hq rfl).1

/-- Every function definition that is not asynchronous, wherever it stands, gives the facts about
one function, an outer one before those in it.  The assignments of a function come from the
statements directly in its own body that assign, in their order.  So a statement counts for one
function at most, and for none if it stands at the top of the file, or in a block of anything but
a function that counts. -/
theorem functions_places (path : String) (s : Source) (root : Tree) :
    (∃ places, InPreorder places ∧ (∀ p, p ∈ places ↔ FunctionAt root p) ∧
      List.Forall₂ (fun p f => ∃ t, root.at? p = some t ∧ f = functionFacts s t ∧
        ∃ statements, InPreorder statements ∧ (∀ q, q ∈ statements ↔ AssignmentIn root p q) ∧
          List.Forall₂ (fun q a => ∃ statement, root.at? q = some statement ∧
            statementAssignment? s statement = some a) statements f.assignments)
        places (fileFacts path s root).functions) ∧
      (∀ p p' q, AssignmentIn root p q → AssignmentIn root p' q → p = p') ∧
      (∀ p j, ¬ AssignmentIn root p [j]) ∧
      ∀ q i j t, root.at? q = some t → (t.kind ≠ "function_definition" ∨ isAsync t = true) →
        ∀ p, ¬ AssignmentIn root p (q ++ [i, j]) := by
  refine ⟨?_, fun p p' q => AssignmentIn.unique, ?_, ?_⟩
  · obtain ⟨places, horder, hmem, hnodes⟩ := exists_places_functions root
    refine ⟨places, horder, hmem, ?_⟩
    have hplaces := (List.forall₂_and_left _ _).mpr ⟨fun p hp => (hmem p).mp hp, hnodes⟩
    rw [fileFacts, List.forall₂_map_right_iff]
    refine hplaces.imp fun p t => ?_
    rintro ⟨⟨f, hf, hkind, hasync⟩, ht⟩
    obtain rfl : t = f := Option.some.inj (ht.symm.trans hf)
    exact ⟨t, ht, rfl, exists_places_assignments s ht hkind hasync⟩
  · rintro p j ⟨_, i, k, _, -, -, -, -, hq, -⟩
    have hlength := congrArg List.length hq
    simp at hlength
  · -- Two steps above a statement stands the node whose body it is in, and nothing else.
    rintro q i j t ht hcounts p ⟨f, k, l, _, hf, hkind, hasync, -, hq, -⟩
    obtain ⟨rfl, -⟩ := List.append_inj' hq rfl
    obtain rfl : t = f := Option.some.inj (ht.symm.trans hf)
    rcases hcounts with h | h
    · exact h hkind
    · cases hasync.symm.trans h

end PythonStyle
