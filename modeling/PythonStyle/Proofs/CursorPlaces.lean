import Mathlib.Data.List.Perm.Subperm
import PythonStyle.Proofs.Addresses
import PythonStyle.Proofs.Walk

/-!
# Where a cursor stands

A cursor keeps the way to its node, with the later siblings of each node on it.  From the root there
is one way to each address, so that a cursor is as good as an address: a move to the first child, to
the next sibling or to the parent is a change of the address, and it is possible exactly if there is
a node at the address that it leads to.  A walk goes through the addresses of a tree in ascending
order and leaves out none.

Main definitions:

- `Cursor.child?` and `Cursor.below?`: the cursor on a child, and on a node further down.
- `Tree.cursorAt?`: the cursor on the node at an address.
- `Tree.places`: the addresses of all nodes of a tree, in preorder.

Main results:

- Theorem `Tree.map_focus_cursorAt?`: there is a cursor on each node.
- Theorems `Cursor.firstChild?_eq`, `Cursor.nextSibling?_eq` and `Cursor.up?_eq`: the moves of a
  cursor, as changes of its address.
- Theorem `Cursor.cursorAt?_of_next?`: a move of a walk goes forward.
- Theorem `Tree.map_cursorAt?_places`: a walk goes through all addresses.
- Theorem `Tree.mem_cursors`: a walk comes to each cursor that stands in the tree, and to no other.
-/

namespace PythonStyle

namespace Cursor

/-! ## Moves -/

/-- The cursor on the child with a given number. -/
def child? (c : Cursor) (i : Nat) : Option Cursor :=
  match c.focus.children.drop i with
  | [] => none
  | t :: later => some ⟨t, ⟨c.focus, later⟩ :: c.path⟩

/-- The cursor on the node at an address, counted from the node on which a cursor stands. -/
def below? (c : Cursor) : Address → Option Cursor
  | [] => some c
  | i :: rest => (c.child? i).bind fun d => d.below? rest

variable {c d : Cursor} {i : Nat}

theorem firstChild?_eq_child? (c : Cursor) : c.firstChild? = c.child? 0 := rfl

theorem child?_eq_some_iff :
    c.child? i = some d ↔
      ∃ t later, c.focus.children.drop i = t :: later ∧ d = ⟨t, ⟨c.focus, later⟩ :: c.path⟩ := by
  unfold child?
  split
  · next h => simp [h]
  · next t later h => simp [h, eq_comm]

/-- From a child one goes on to the child with the next number. -/
theorem nextSibling?_of_child? (h : c.child? i = some d) : d.nextSibling? = c.child? (i + 1) := by
  obtain ⟨t, later, hdrop, rfl⟩ := child?_eq_some_iff.mp h
  have hnext : c.focus.children.drop (i + 1) = later := by
    rw [← List.drop_drop, hdrop, List.drop_succ_cons, List.drop_zero]
  rw [child?, hnext]
  cases later with
  | nil => rfl
  | cons u later => rfl

/-- From a child one goes up to where one came from. -/
theorem up?_of_child? (h : c.child? i = some d) : d.up? = some c := by
  obtain ⟨t, later, -, rfl⟩ := child?_eq_some_iff.mp h
  rfl

theorem focus_of_child? (h : c.child? i = some d) : c.focus.children[i]? = some d.focus := by
  obtain ⟨t, later, hdrop, rfl⟩ := child?_eq_some_iff.mp h
  rw [← List.head?_drop, hdrop, List.head?_cons]

/-- A node has a child with a number exactly if a cursor can go there. -/
theorem map_focus_child? (c : Cursor) (i : Nat) :
    (c.child? i).map (·.focus) = c.focus.children[i]? := by
  cases h : c.child? i with
  | some d => exact (focus_of_child? h).symm
  | none =>
      rw [child?] at h
      split at h
      · next hdrop => rw [← List.head?_drop, hdrop]; rfl
      · cases h

/-! ## Addresses -/

@[simp] theorem below?_nil (c : Cursor) : c.below? [] = some c := rfl

theorem below?_append (c : Cursor) (p q : Address) :
    c.below? (p ++ q) = (c.below? p).bind fun d => d.below? q := by
  induction p generalizing c with
  | nil => rfl
  | cons i rest ih =>
      rw [List.cons_append, below?, below?]
      cases c.child? i with
      | none => rfl
      | some d => exact ih d

theorem map_focus_below? (c : Cursor) (p : Address) :
    (c.below? p).map (·.focus) = c.focus.at? p := by
  induction p generalizing c with
  | nil => rfl
  | cons i rest ih =>
      rw [below?, Tree.at?, ← map_focus_child?]
      cases c.child? i with
      | none => rfl
      | some d => exact ih d

end Cursor

namespace Tree

/-- The cursor on the node at an address. -/
def cursorAt? (root : Tree) (p : Address) : Option Cursor := (Cursor.ofRoot root).below? p

theorem cursorAt?_nil (root : Tree) : root.cursorAt? [] = some (Cursor.ofRoot root) := rfl

/-- There is a cursor on each node. -/
theorem map_focus_cursorAt? (root : Tree) (p : Address) :
    (root.cursorAt? p).map (·.focus) = root.at? p := Cursor.map_focus_below? _ p

/-- A cursor below the root is reached from the cursor above it. -/
theorem cursorAt?_concat (root : Tree) (p : Address) (i : Nat) :
    root.cursorAt? (p ++ [i]) = (root.cursorAt? p).bind fun c => c.child? i := by
  rw [cursorAt?, Cursor.below?_append, cursorAt?]
  simp [Cursor.below?]

end Tree

namespace Cursor

variable {root : Tree} {p : Address} {i : Nat} {c d : Cursor}

/-- A move down, if there is a node to go to. -/
theorem firstChild?_eq (hc : root.cursorAt? p = some c) :
    c.firstChild? = root.cursorAt? (p ++ [0]) := by
  rw [Tree.cursorAt?_concat, hc, firstChild?_eq_child?]
  rfl

/-- A move to the next sibling, if there is one. -/
theorem nextSibling?_eq (hc : root.cursorAt? (p ++ [i]) = some c) :
    c.nextSibling? = root.cursorAt? (p ++ [i + 1]) := by
  rw [Tree.cursorAt?_concat] at hc ⊢
  obtain ⟨parent, hparent, hchild⟩ := Option.bind_eq_some_iff.mp hc
  rw [hparent, nextSibling?_of_child? hchild]
  rfl

/-- A move up, which is always possible below the root. -/
theorem up?_eq (hc : root.cursorAt? (p ++ [i]) = some c) : c.up? = root.cursorAt? p := by
  rw [Tree.cursorAt?_concat] at hc
  obtain ⟨parent, hparent, hchild⟩ := Option.bind_eq_some_iff.mp hc
  rw [hparent, up?_of_child? hchild]

/-- From the root there is no move sideways, so that the cursor stood below another. -/
theorem cursorAt?_of_nextSibling? (hc : root.cursorAt? p = some c) (h : c.nextSibling? = some d) :
    ∃ above i, p = above ++ [i] ∧ root.cursorAt? (above ++ [i + 1]) = some d := by
  rcases List.eq_nil_or_concat p with rfl | ⟨above, i, rfl⟩
  · obtain rfl := Option.some.inj hc
    cases h
  · rw [List.concat_eq_append] at hc ⊢
    exact ⟨above, i, rfl, (nextSibling?_eq hc).symm.trans h⟩

/-- Nor is there a move up from the root. -/
theorem cursorAt?_of_up? (hc : root.cursorAt? p = some c) (h : c.up? = some d) :
    ∃ above i, p = above ++ [i] ∧ root.cursorAt? above = some d := by
  rcases List.eq_nil_or_concat p with rfl | ⟨above, i, rfl⟩
  · obtain rfl := Option.some.inj hc
    cases h
  · rw [List.concat_eq_append] at hc ⊢
    exact ⟨above, i, rfl, (up?_eq hc).symm.trans h⟩

/-! ## Walks -/

/-- Climbing leads behind everything that stands at an address or below it. -/
theorem cursorAt?_of_climb? (hc : root.cursorAt? p = some c) (h : c.climb? = some d) :
    ∃ q, root.cursorAt? q = some d ∧ ∀ below, p ++ below < q := by
  fun_induction climb? c generalizing p with
  | case1 c e hnext =>
      obtain rfl := Option.some.inj h
      obtain ⟨above, i, rfl, hsibling⟩ := cursorAt?_of_nextSibling? hc hnext
      refine ⟨above ++ [i + 1], hsibling, fun below => ?_⟩
      rw [List.append_assoc]
      exact List.append_left_lt (List.cons_lt_cons_iff.mpr (.inl (Nat.lt_succ_self i)))
  | case2 c hnext e hup ih =>
      obtain ⟨above, i, rfl, hparent⟩ := cursorAt?_of_up? hc hup
      obtain ⟨q, hq, hbehind⟩ := ih hparent h
      refine ⟨q, hq, fun below => ?_⟩
      rw [List.append_assoc]
      exact hbehind ([i] ++ below)
  | case3 => cases h

/-- A move of a walk goes forward. -/
theorem cursorAt?_of_next? (hc : root.cursorAt? p = some c) (h : c.next? = some d) :
    ∃ q, root.cursorAt? q = some d ∧ p < q := by
  unfold next? at h
  split at h
  · next e hchild =>
      obtain rfl := Option.some.inj h
      rw [firstChild?_eq hc] at hchild
      have hbelow : p ++ [] < p ++ [0] := List.append_left_lt (List.nil_lt_cons 0 [])
      rw [List.append_nil] at hbelow
      exact ⟨p ++ [0], hchild, hbelow⟩
  · obtain ⟨q, hq, hbehind⟩ := cursorAt?_of_climb? hc h
    have hnode := hbehind []
    rw [List.append_nil] at hnode
    exact ⟨q, hq, hnode⟩

/-- The cursors of a walk stand at addresses in ascending order. -/
theorem exists_places_walk (hc : root.cursorAt? p = some c) :
    ∃ places, (p :: places).Pairwise (· < ·) ∧
      (p :: places).map root.cursorAt? = c.walk.map some := by
  induction c using walk.induct generalizing p with
  | case1 c ih =>
      cases hnext : c.next? with
      | none =>
          rw [walk_of_next?_eq_none hnext]
          exact ⟨[], List.pairwise_singleton _ p, congrArg ([·]) hc⟩
      | some d =>
          obtain ⟨q, hq, hlt⟩ := cursorAt?_of_next? hc hnext
          obtain ⟨places, horder, hcursors⟩ := ih d hnext hq
          have hfirst : ∀ r ∈ q :: places, p < r := by
            intro r hr
            rcases List.mem_cons.mp hr with rfl | hr
            · exact hlt
            · exact List.lt_trans hlt ((List.pairwise_cons.mp horder).1 r hr)
          refine ⟨q :: places, List.pairwise_cons.mpr ⟨hfirst, horder⟩, ?_⟩
          rw [walk_of_next? hnext, List.map_cons (l := q :: places), hcursors, hc]
          rfl

end Cursor

namespace Tree

/-- The addresses of all nodes of a tree, in preorder. -/
def places (root : Tree) : List Address := root.located.map Prod.fst

theorem mem_places {root : Tree} {p : Address} : p ∈ root.places ↔ ∃ t, root.at? p = some t := by
  simp [places, mem_located]

/-- There are as many cursors as addresses. -/
theorem length_places (root : Tree) : root.places.length = root.cursors.length := by
  rw [places, List.length_map, ← List.length_map (f := Prod.snd), map_snd_located,
    ← map_focus_cursors, List.length_map]

/-- A walk goes through all addresses of a tree, in preorder. -/
theorem map_cursorAt?_places (root : Tree) :
    root.places.map root.cursorAt? = root.cursors.map some := by
  obtain ⟨rest, horder, hcursors⟩ := Cursor.exists_places_walk root.cursorAt?_nil
  have hplaces : ([] :: rest) ⊆ root.places := by
    intro p hp
    have hcursor := List.mem_map_of_mem (f := root.cursorAt?) hp
    rw [hcursors] at hcursor
    obtain ⟨c, -, hc⟩ := List.mem_map.mp hcursor
    exact mem_places.mpr ⟨c.focus, by rw [← map_focus_cursorAt?, ← hc]; rfl⟩
  have hdistinct : ([] :: rest).Nodup := by
    refine horder.imp ?_
    rintro p _ hlt rfl
    exact List.lt_irrefl p hlt
  -- There is no room for a node that the walk leaves out.
  have hlength : root.places.length ≤ ([] :: rest).length := by
    have h := congrArg List.length hcursors
    rw [List.length_map, List.length_map] at h
    rw [length_places, h]
    exact Nat.le_refl _
  have hperm := (List.subperm_of_subset hdistinct hplaces).perm_of_length_le hlength
  have heq : [] :: rest = root.places := by
    apply List.Perm.eq_of_pairwise _ horder (pairwise_located root) hperm
    intro p q _ _ hpq hqp
    exact absurd hpq (List.lt_asymm hqp)
  rw [← heq]
  exact hcursors

/-- A walk comes to a cursor exactly if it stands at an address of the tree. -/
theorem mem_cursors {root : Tree} {c : Cursor} :
    c ∈ root.cursors ↔ ∃ p, root.cursorAt? p = some c := by
  have hmem : c ∈ root.cursors ↔ some c ∈ root.places.map root.cursorAt? := by
    rw [map_cursorAt?_places]
    simp
  rw [hmem, List.mem_map]
  constructor
  · rintro ⟨p, -, hp⟩
    exact ⟨p, hp⟩
  · rintro ⟨p, hp⟩
    refine ⟨p, mem_places.mpr ⟨c.focus, ?_⟩, hp⟩
    rw [← map_focus_cursorAt?, hp, Option.map_some]

end Tree

end PythonStyle
