import PythonStyle.Facts.Parameters

/-!
# Assignment statements

An assignment may have several targets, `a = b = value`: the tree nests all but the
first in the right-hand side.  A target is judged if it is an identifier, or an
attribute of at most two levels over an identifier.

Main definitions:

- `resolveTarget`: what a target node is.
- `chainTargets`: the target nodes of a chain, from left to right.
- `bodyAssignments`: the assignments among the statements of a body.

Main results:

- `resolveTarget_eq_ok`: the shapes of the targets that are judged.
- `statementAssignment?_eq_some`: the line and the targets of an assignment.
-/

namespace PythonStyle

/-- The object and the attribute of an attribute node. -/
def attributeParts? (t : Tree) : Option (Tree × Tree) := do
  return (← t.child? "object", ← t.child? "attribute")

theorem attributeParts?_eq_some_iff {t object name : Tree} :
    attributeParts? t = some (object, name) ↔
      t.child? "object" = some object ∧ t.child? "attribute" = some name := by
  simp only [attributeParts?, Option.bind_eq_bind, Option.bind_eq_some_iff, Option.pure_def,
    Option.some.injEq, Prod.mk.injEq]
  constructor
  · rintro ⟨_, hobject, _, hname, rfl, rfl⟩
    exact ⟨hobject, hname⟩
  · rintro ⟨hobject, hname⟩
    exact ⟨object, hobject, name, hname, rfl, rfl⟩

/-- The target that a node is, or its kind and line if it is not judged. -/
def resolveTarget (s : Source) (t : Tree) : Except UnsupportedTarget Target :=
  let unsupported : Except UnsupportedTarget Target := .error ⟨t.kind, s.lineOf t⟩
  if t.kind = "identifier" then .ok (.simple (s.textOf t))
  else if t.kind = "attribute" then
    match attributeParts? t with
    | none => unsupported
    | some (object, attr) =>
      if object.kind = "identifier" then .ok (.member (s.textOf object) (s.textOf attr))
      else if object.kind = "attribute" then
        match attributeParts? object with
        | none => unsupported
        | some (base, mid) =>
          if base.kind = "identifier" then
            .ok (.nested (s.textOf base) (s.textOf mid) (s.textOf attr))
          else unsupported
      else unsupported
  else unsupported

/-- A target that is judged is an identifier, or an attribute of an identifier or of such an
attribute. -/
theorem resolveTarget_eq_ok {s : Source} {t : Tree} {target : Target}
    (h : resolveTarget s t = .ok target) :
    (t.kind = "identifier" ∧ target = .simple (s.textOf t)) ∨
      t.kind = "attribute" ∧ ∃ object name, attributeParts? t = some (object, name) ∧
        ((object.kind = "identifier" ∧ target = .member (s.textOf object) (s.textOf name)) ∨
          object.kind = "attribute" ∧ ∃ base mid, attributeParts? object = some (base, mid) ∧
            base.kind = "identifier" ∧
            target = .nested (s.textOf base) (s.textOf mid) (s.textOf name)) := by
  simp only [resolveTarget] at h
  split at h
  · next hkind =>
      cases h
      exact .inl ⟨hkind, rfl⟩
  · split at h
    · next hkind =>
        refine .inr ⟨hkind, ?_⟩
        split at h
        · cases h
        · next object name hparts =>
            refine ⟨object, name, hparts, ?_⟩
            split at h
            · next hobject =>
                cases h
                exact .inl ⟨hobject, rfl⟩
            · split at h
              · next hobject =>
                  refine .inr ⟨hobject, ?_⟩
                  split at h
                  · cases h
                  · next base mid hparts =>
                      split at h
                      · next hbase =>
                          cases h
                          exact ⟨base, mid, hparts, hbase, rfl⟩
                      · cases h
              · cases h
    · cases h

/-- Whether a node is an assignment without a type. -/
def isPlainAssignment (t : Tree) : Bool :=
  t.kind == "assignment" && (t.child? "type").isNone

/-- The target nodes of a chain of plain assignments, from left to right. -/
def chainTargets (t : Tree) : List Tree :=
  if isPlainAssignment t then
    (t.child? "left").toList ++
      match _h : t.child? "right" with
      | some right => chainTargets right
      | none => []
  else []
termination_by sizeOf t
decreasing_by exact Tree.sizeOf_lt_of_mem_children (Tree.mem_children_of_child? _h)

/-- The assignment that a statement is, if it is one. -/
def statementAssignment? (s : Source) (statement : Tree) : Option Assignment :=
  if statement.kind = "expression_statement" then
    match statement.namedChildren.head? with
    | some expression =>
      if isPlainAssignment expression then
        some ⟨s.lineOf statement, (chainTargets expression).map (resolveTarget s)⟩
      else none
    | none => none
  else none

/-- The assignment that a statement is has the line of the statement, and the targets of the chain
that is its expression. -/
theorem statementAssignment?_eq_some {s : Source} {statement : Tree} {a : Assignment}
    (h : statementAssignment? s statement = some a) :
    ∃ expression, statement.namedChildren.head? = some expression ∧
      a = ⟨s.lineOf statement, (chainTargets expression).map (resolveTarget s)⟩ := by
  unfold statementAssignment? at h
  split at h
  · split at h
    · next expression hexpression =>
        split at h
        · exact ⟨expression, hexpression, (Option.some.inj h).symm⟩
        · cases h
    · cases h
  · cases h

/-- The assignments among the statements of a body, in order. -/
def bodyAssignments (s : Source) (body : Tree) : List Assignment :=
  body.namedChildren.filterMap (statementAssignment? s)

end PythonStyle
