import Mathlib.Data.List.Basic
import PythonStyle.Tree.Cursor

/-!
# A walk visits every node

A cursor that moves to the next node, again and again, goes through the nodes below the one it
stands on, and then through those that its path keeps for later.  From the root it so visits all
nodes of the tree, in preorder, and a search finds a node wherever there is one.

Main definitions:

- `Cursor.kept`: the nodes that a path keeps for later.
- `Cursor.ahead`: the nodes that a walk has yet to visit.

Main results:

- Theorem `Cursor.ahead_of_next?`: a move goes to the first node ahead and leaves the others.
- Theorem `Cursor.map_focus_walk`: the nodes that a walk visits.
- Theorem `Cursor.find?_eq`: a search finds the first cursor of the walk that satisfies the
  predicate.
- Theorem `Tree.any_focus_eq_any_preorder`: a search for a node looks at all nodes of the tree.
-/

namespace PythonStyle

namespace Cursor

/-- The nodes that a path keeps for later, in the order in which they are visited. -/
def kept : List Ancestor → List Tree
  | [] => []
  | a :: path => Tree.preorderAll a.later ++ kept path

/-- The nodes that a walk from here has yet to visit, in order. -/
def ahead (c : Cursor) : List Tree := Tree.preorderAll c.focus.children ++ kept c.path

/-- The node itself, what is below it, and what is kept for later. -/
theorem cons_ahead (c : Cursor) : c.focus :: c.ahead = c.focus.preorder ++ kept c.path := by
  obtain ⟨⟨kind, named, field, start, stop, children⟩, path⟩ := c
  rfl

/-! ## Moves -/

theorem kept_of_nextSibling? {c d : Cursor} (h : c.nextSibling? = some d) :
    kept c.path = d.focus :: d.ahead := by
  unfold nextSibling? at h
  split at h
  · next parent t later path hpath =>
      obtain rfl := Option.some.inj h
      rw [hpath, cons_ahead]
      exact List.append_assoc _ _ _
  · cases h

/-- Above a node without later siblings nothing more is kept than at the node. -/
theorem kept_of_up? {c d : Cursor} (hnext : c.nextSibling? = none) (h : c.up? = some d) :
    kept c.path = kept d.path := by
  unfold up? at h
  split at h
  · cases h
  · next a path hpath =>
      obtain rfl := Option.some.inj h
      obtain ⟨parent, later⟩ := a
      cases later with
      | nil => rw [hpath]; rfl
      | cons t later => simp [nextSibling?, hpath] at hnext

theorem kept_of_up?_eq_none {c : Cursor} (h : c.up? = none) : kept c.path = [] := by
  unfold up? at h
  split at h
  · next hpath => rw [hpath]; rfl
  · cases h

/-- Climbing goes to the first node that is kept. -/
theorem kept_of_climb? {c d : Cursor} (h : c.climb? = some d) :
    kept c.path = d.focus :: d.ahead := by
  fun_induction climb? c with
  | case1 c e hnext =>
      obtain rfl := Option.some.inj h
      exact kept_of_nextSibling? hnext
  | case2 c hnext e hup ih => rw [kept_of_up? hnext hup, ih h]
  | case3 => cases h

theorem kept_of_climb?_eq_none {c : Cursor} (h : c.climb? = none) : kept c.path = [] := by
  fun_induction climb? c with
  | case1 => cases h
  | case2 c hnext e hup ih => rw [kept_of_up? hnext hup, ih h]
  | case3 c hnext hup => exact kept_of_up?_eq_none hup

/-- A move goes to the first node ahead and leaves the others ahead. -/
theorem ahead_of_next? {c d : Cursor} (h : c.next? = some d) : c.ahead = d.focus :: d.ahead := by
  unfold next? firstChild? at h
  cases hchildren : c.focus.children with
  | nil =>
      rw [hchildren] at h
      rw [ahead, hchildren, Tree.preorderAll, List.nil_append, kept_of_climb? h]
  | cons t later =>
      rw [hchildren] at h
      obtain rfl := Option.some.inj h
      rw [ahead, hchildren, cons_ahead]
      exact List.append_assoc _ _ _

theorem ahead_of_next?_eq_none {c : Cursor} (h : c.next? = none) : c.ahead = [] := by
  unfold next? firstChild? at h
  cases hchildren : c.focus.children with
  | nil =>
      rw [hchildren] at h
      rw [ahead, hchildren, Tree.preorderAll, List.nil_append, kept_of_climb?_eq_none h]
  | cons t later =>
      rw [hchildren] at h
      cases h

/-! ## Walks -/

theorem walk_of_next? {c d : Cursor} (h : c.next? = some d) : c.walk = c :: d.walk := by
  rw [walk]
  split
  · next e he => rw [Option.some.inj (he.symm.trans h)]
  · next he => rw [he] at h; cases h

theorem walk_of_next?_eq_none {c : Cursor} (h : c.next? = none) : c.walk = [c] := by
  rw [walk]
  split
  · next e he => rw [he] at h; cases h
  · rfl

/-- A walk visits the node from which it starts, and then all nodes ahead. -/
theorem map_focus_walk (c : Cursor) : c.walk.map (·.focus) = c.focus :: c.ahead := by
  induction c using walk.induct with
  | case1 c ih =>
      cases hnext : c.next? with
      | none => rw [walk_of_next?_eq_none hnext, ahead_of_next?_eq_none hnext]; rfl
      | some d =>
          rw [walk_of_next? hnext, ahead_of_next? hnext, List.map_cons, ih d hnext]

/-- A search finds the first cursor of the walk that satisfies the predicate. -/
theorem find?_eq (p : Cursor → Bool) (c : Cursor) : c.find? p = c.walk.find? p := by
  fun_induction find? p c with
  | case1 c hc => rw [walk, List.find?_cons_of_pos hc]
  | case2 c hc d hnext ih => rw [walk_of_next? hnext, List.find?_cons_of_neg hc, ih]
  | case3 c hc hnext =>
      rw [walk_of_next?_eq_none hnext, List.find?_cons_of_neg hc, List.find?_nil]

end Cursor

namespace Tree

theorem map_focus_cursors (t : Tree) : t.cursors.map (·.focus) = t.preorder := by
  rw [cursors, Cursor.map_focus_walk, Cursor.cons_ahead]
  exact List.append_nil _

/-- A search looks at all cursors of the tree. -/
theorem any_eq_any_cursors (t : Tree) (p : Cursor → Bool) : t.any p = t.cursors.any p := by
  rw [any, Cursor.find?_eq, List.isSome_find?]
  rfl

/-- A search for a node looks at all nodes of the tree. -/
theorem any_focus_eq_any_preorder (t : Tree) (p : Tree → Bool) :
    t.any (fun c => p c.focus) = t.preorder.any p := by
  rw [any_eq_any_cursors, ← map_focus_cursors, List.any_map]
  rfl

end Tree

end PythonStyle
