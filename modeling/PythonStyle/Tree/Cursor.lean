import PythonStyle.Tree.Basic

/-!
# Walking a tree

A cursor stands on a node and remembers the way there: each ancestor, with the
children of it that come later.  From a cursor one can go to the first child, the
next sibling and the parent.  `Cursor.next?` puts these together to a walk in
preorder, and `Cursor.find?` walks until a predicate holds.  The walk ends because
each move leaves fewer nodes to visit.

Main definitions:

- `Cursor.next?`: the move to the next node in preorder.
- `Cursor.find?` and `Tree.any`: the search for a node.
- `Tree.preorder`: all nodes of a tree, a node before those below it.
-/

namespace PythonStyle

namespace Tree

mutual

/-- The number of nodes of a tree. -/
def count : Tree → Nat
  | node _ _ _ _ _ children => countAll children + 1

/-- The number of nodes of several trees. -/
def countAll : List Tree → Nat
  | [] => 0
  | t :: rest => count t + countAll rest

end

/-- A tree has its own node and those of its children. -/
theorem count_eq (t : Tree) : t.count = countAll t.children + 1 := by
  cases t
  rw [count, children_node]

mutual

/-- All nodes of a tree, a node before those below it. -/
def preorder : Tree → List Tree
  | t@(node _ _ _ _ _ children) => t :: preorderAll children

/-- All nodes of several trees, in order. -/
def preorderAll : List Tree → List Tree
  | [] => []
  | t :: rest => preorder t ++ preorderAll rest

end

theorem self_mem_preorder (t : Tree) : t ∈ t.preorder := by
  cases t
  exact List.mem_cons_self

theorem mem_preorderAll {t : Tree} {trees : List Tree} :
    t ∈ preorderAll trees ↔ ∃ root ∈ trees, t ∈ root.preorder := by
  induction trees with
  | nil => simp [preorderAll]
  | cons root trees ih => simp [preorderAll, ih]

/-- The nodes below a node of a tree are nodes of the tree. -/
theorem mem_preorder_of_mem_children {root t c : Tree} (ht : t ∈ root.preorder)
    (hc : c ∈ t.children) : c ∈ root.preorder := by
  match root with
  | .node kind named field start stop children =>
      rw [preorder, List.mem_cons] at ht ⊢
      right
      rw [mem_preorderAll]
      rcases ht with rfl | ht
      · exact ⟨c, hc, self_mem_preorder c⟩
      · obtain ⟨child, hchild, ht⟩ := mem_preorderAll.mp ht
        exact ⟨child, hchild, mem_preorder_of_mem_children ht hc⟩

theorem mem_preorder_of_child? {root t c : Tree} {field : String} (ht : t ∈ root.preorder)
    (hc : t.child? field = some c) : c ∈ root.preorder :=
  mem_preorder_of_mem_children ht (mem_children_of_child? hc)

theorem mem_preorder_of_mem_namedChildren {root t c : Tree} (ht : t ∈ root.preorder)
    (hc : c ∈ t.namedChildren) : c ∈ root.preorder :=
  mem_preorder_of_mem_children ht (mem_children_of_mem_namedChildren hc)

end Tree

/-- An ancestor on the way to a node, with the children of it that come later. -/
structure Ancestor where
  parent : Tree
  later : List Tree

/-- A node of a tree together with the way to it, its parent first. -/
structure Cursor where
  focus : Tree
  path : List Ancestor

namespace Cursor

/-- The cursor on the root of a tree. -/
def ofRoot (t : Tree) : Cursor := ⟨t, []⟩

/-- The parent of the node, unless it is where the walk began. -/
def parent? (c : Cursor) : Option Tree :=
  c.path.head?.map (·.parent)

/-- Moves to the first child. -/
def firstChild? (c : Cursor) : Option Cursor :=
  match c.focus.children with
  | [] => none
  | t :: later => some ⟨t, ⟨c.focus, later⟩ :: c.path⟩

/-- Moves to the next sibling. -/
def nextSibling? (c : Cursor) : Option Cursor :=
  match c.path with
  | ⟨parent, t :: later⟩ :: path => some ⟨t, ⟨parent, later⟩ :: path⟩
  | _ => none

/-- Moves to the parent. -/
def up? (c : Cursor) : Option Cursor :=
  match c.path with
  | [] => none
  | a :: path => some ⟨a.parent, path⟩

/-- The number of nodes that the children and later siblings on a path hold. -/
def laterCount : List Ancestor → Nat
  | [] => 0
  | a :: path => Tree.countAll a.later + laterCount path

/-- The number of nodes that a walk from here has yet to visit. -/
def pending (c : Cursor) : Nat :=
  Tree.countAll c.focus.children + laterCount c.path

@[simp] theorem laterCount_nil : laterCount [] = 0 := rfl

@[simp] theorem laterCount_cons (a : Ancestor) (path : List Ancestor) :
    laterCount (a :: path) = Tree.countAll a.later + laterCount path := rfl

/-- Moving down leaves fewer nodes to visit. -/
theorem pending_firstChild? {c d : Cursor} (h : c.firstChild? = some d) :
    d.pending < c.pending := by
  unfold firstChild? at h
  cases hc : c.focus.children with
  | nil => simp [hc] at h
  | cons t later =>
    simp only [hc, Option.some.injEq] at h
    subst h
    simp only [pending, laterCount_cons, hc, Tree.countAll, Tree.count_eq]
    omega

/-- Moving on leaves fewer nodes to visit. -/
theorem pending_nextSibling? {c d : Cursor} (h : c.nextSibling? = some d) :
    d.pending < laterCount c.path := by
  unfold nextSibling? at h
  split at h
  · next parent t later path hp =>
    simp only [Option.some.injEq] at h
    subst h
    simp only [pending, laterCount_cons, hp, Tree.countAll, Tree.count_eq]
    omega
  · simp at h

/-- Moving up keeps what the path holds, and no more. -/
theorem laterCount_up? {c d : Cursor} (h : c.up? = some d) :
    laterCount d.path ≤ laterCount c.path := by
  unfold up? at h
  split at h
  · simp at h
  · next a path hp =>
    simp only [Option.some.injEq] at h
    subst h
    simp [hp]

/-- Moving up shortens the path. -/
theorem length_up? {c d : Cursor} (h : c.up? = some d) : d.path.length < c.path.length := by
  unfold up? at h
  split at h
  · simp at h
  · next a path hp =>
    simp only [Option.some.injEq] at h
    subst h
    simp [hp]

/-- Moves to the next sibling of the node or of its nearest ancestor that has one. -/
def climb? (c : Cursor) : Option Cursor :=
  match c.nextSibling? with
  | some d => some d
  | none =>
    match _h : c.up? with
    | some d => climb? d
    | none => none
termination_by c.path.length
decreasing_by exact length_up? _h

/-- Climbing leaves fewer nodes to visit. -/
theorem pending_climb? {c d : Cursor} (h : c.climb? = some d) :
    d.pending < laterCount c.path := by
  fun_induction climb? c with
  | case1 c e he =>
    simp only [Option.some.injEq] at h
    subst h
    exact pending_nextSibling? he
  | case2 c _ e he ih => exact Nat.lt_of_lt_of_le (ih h) (laterCount_up? he)
  | case3 => simp at h

/-- Moves to the next node in preorder. -/
def next? (c : Cursor) : Option Cursor :=
  match c.firstChild? with
  | some d => some d
  | none => c.climb?

/-- Every move of the walk leaves fewer nodes to visit. -/
theorem pending_next? {c d : Cursor} (h : c.next? = some d) : d.pending < c.pending := by
  unfold next? at h
  split at h
  · next e he =>
    simp only [Option.some.injEq] at h
    subst h
    exact pending_firstChild? he
  · exact Nat.lt_of_lt_of_le (pending_climb? h) (by simp [pending])

/-- The first cursor, from a given one on in preorder, that satisfies a predicate. -/
def find? (p : Cursor → Bool) (c : Cursor) : Option Cursor :=
  if p c then some c
  else
    match _h : c.next? with
    | some d => find? p d
    | none => none
termination_by c.pending
decreasing_by exact pending_next? _h

/-- The cursors from a given one on, in preorder. -/
def walk (c : Cursor) : List Cursor :=
  c :: match _h : c.next? with
    | some d => walk d
    | none => []
termination_by c.pending
decreasing_by exact pending_next? _h

end Cursor

namespace Tree

/-- Whether some node of a tree satisfies a predicate on its cursor. -/
def any (t : Tree) (p : Cursor → Bool) : Bool :=
  ((Cursor.ofRoot t).find? p).isSome

/-- The cursors on all nodes of a tree, in preorder. -/
def cursors (t : Tree) : List Cursor :=
  (Cursor.ofRoot t).walk

end Tree

end PythonStyle
