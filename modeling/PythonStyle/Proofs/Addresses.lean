import Mathlib.Data.List.Forall2
import PythonStyle.Tree.Cursor

/-!
# Addresses of nodes

Two nodes of a tree may be equal, and are still two nodes.  What tells them apart is where they
stand: the address of a node says which child to take at each step from the root.  The order of
addresses is the lexicographic one, in which a node comes before those below it, and those below
it before the nodes that follow.

Main definitions:

- `Tree.at?`: the node at an address.
- `Tree.located`: all nodes of a tree with their addresses, in preorder.
- `InPreorder`: addresses in the order of a walk.

Main results:

- Theorem `Tree.mem_located`: each node is listed with its address.
- Theorem `Tree.inPreorder_located`: the addresses come in the order of a walk.
- Theorem `Tree.map_snd_located`: the nodes are those of the preorder.
- Theorem `Tree.exists_places_preorder`: the places of the nodes of a tree that are picked.
- Theorem `Tree.exists_places_children`: the places of the children of a node that are picked.
- Theorem `forall₂_filterMap`: what a partial function picks from a list, element by element.
-/

namespace PythonStyle

/-- Where a node stands: which child to take at each step from the root. -/
abbrev Address := List Nat

/-- Addresses in the order of a walk: each comes before those behind it and does not stand below
one of them. -/
def InPreorder (places : List Address) : Prop :=
  places.Pairwise fun p q => p < q ∧ ¬ q <+: p

/-- What a partial function picks from a list comes from the elements on which it is defined, in
their order. -/
theorem forall₂_filterMap {α β : Type} (f : α → Option β) (as : List α) :
    List.Forall₂ (fun a b => f a = some b) (as.filter fun a => (f a).isSome) (as.filterMap f) := by
  induction as with
  | nil => exact .nil
  | cons a as ih =>
      cases h : f a with
      | none => simpa [h] using ih
      | some b => simpa [h] using ih

/-- Two lists that agree with a third, element by element, agree with each other through it. -/
theorem forall₂_comp {α β γ : Type} {R : α → β → Prop} {S : β → γ → Prop} {as : List α}
    {bs : List β} {cs : List γ} (h : List.Forall₂ R as bs) (h' : List.Forall₂ S bs cs) :
    List.Forall₂ (fun a c => ∃ b, R a b ∧ S b c) as cs := by
  induction h generalizing cs with
  | nil =>
      cases h'
      exact .nil
  | cons hab _ ih =>
      cases h' with
      | cons hbc hrest => exact .cons ⟨_, hab, hbc⟩ (ih hrest)

/-- What stands above an address comes before it. -/
theorem not_lt_of_prefix {p q : Address} (h : q <+: p) : ¬ p < q := by
  obtain ⟨more, rfl⟩ := h
  induction q with
  | nil => exact List.not_lt_nil more
  | cons i rest ih => exact fun h => ih (List.cons_lt_cons_self.mp h)

theorem inPreorder_of_pairwise_lt {places : List Address} (h : places.Pairwise (· < ·)) :
    InPreorder places :=
  h.imp fun hlt => ⟨hlt, fun hprefix => not_lt_of_prefix hprefix hlt⟩

namespace Tree

/-- The node at an address. -/
def at? (t : Tree) : Address → Option Tree
  | [] => some t
  | i :: rest => t.children[i]?.bind fun c => c.at? rest

@[simp] theorem at?_nil (t : Tree) : t.at? [] = some t := rfl

theorem at?_cons_eq_some_iff {t u : Tree} {i : Nat} {rest : Address} :
    t.at? (i :: rest) = some u ↔ ∃ c, t.children[i]? = some c ∧ c.at? rest = some u := by
  simp [at?, Option.bind_eq_some_iff]

/-- To go to an address is to go to a place above it, and on from there. -/
theorem at?_append (t : Tree) (p q : Address) :
    t.at? (p ++ q) = (t.at? p).bind fun u => u.at? q := by
  induction p generalizing t with
  | nil => rfl
  | cons i rest ih =>
      rw [List.cons_append, at?, at?]
      cases t.children[i]? with
      | none => rfl
      | some c => exact ih c

/-- The child of a node with a given number. -/
theorem at?_append_singleton {t u : Tree} {p : Address} (h : t.at? p = some u) (i : Nat) :
    t.at? (p ++ [i]) = u.children[i]? := by
  rw [at?_append, h, Option.bind_some, at?]
  cases u.children[i]? <;> rfl

mutual

/-- All nodes of a tree with their addresses, a node before those below it. -/
def located : Tree → List (Address × Tree)
  | t@(node _ _ _ _ _ children) => ([], t) :: locatedFrom 0 children

/-- All nodes of trees with their addresses, where the trees are the children of a node from a
given number on. -/
def locatedFrom : Nat → List Tree → List (Address × Tree)
  | _, [] => []
  | i, t :: rest => (located t).map (fun x => (i :: x.1, x.2)) ++ locatedFrom (i + 1) rest

end

/-- A node is listed, and then the nodes below it. -/
theorem located_eq (t : Tree) : t.located = ([], t) :: locatedFrom 0 t.children := by
  cases t
  rfl

mutual

/-- The nodes that are listed are those of the preorder. -/
theorem map_snd_located : ∀ t : Tree, t.located.map Prod.snd = t.preorder
  | node _ _ _ _ _ children => by
      rw [located, preorder, List.map_cons, map_snd_locatedFrom 0 children]

theorem map_snd_locatedFrom : ∀ (i : Nat) (trees : List Tree),
    (locatedFrom i trees).map Prod.snd = preorderAll trees
  | _, [] => rfl
  | i, t :: rest => by
      rw [locatedFrom, preorderAll, List.map_append, List.map_map, map_snd_locatedFrom (i + 1) rest,
        ← map_snd_located t]
      rfl

end

theorem mem_locatedFrom {i : Nat} {trees : List Tree} {x : Address × Tree} :
    x ∈ locatedFrom i trees ↔
      ∃ j t, trees[j]? = some t ∧ ∃ y ∈ t.located, x = ((i + j) :: y.1, y.2) := by
  induction trees generalizing i with
  | nil => simp [locatedFrom]
  | cons t rest ih =>
      rw [locatedFrom, List.mem_append, List.mem_map, ih]
      constructor
      · rintro (⟨y, hy, rfl⟩ | ⟨j, u, hu, y, hy, rfl⟩)
        · exact ⟨0, t, rfl, y, hy, rfl⟩
        · refine ⟨j + 1, u, hu, y, hy, ?_⟩
          rw [Nat.add_assoc, Nat.add_comm 1 j]
      · rintro ⟨j, u, hu, y, hy, rfl⟩
        cases j with
        | zero =>
            obtain rfl : t = u := Option.some.inj hu
            exact .inl ⟨y, hy, rfl⟩
        | succ j =>
            refine .inr ⟨j, u, hu, y, hy, ?_⟩
            rw [Nat.add_assoc, Nat.add_comm 1 j]

/-- The nodes of a tree are listed with their addresses. -/
theorem mem_located {t u : Tree} {p : Address} : (p, u) ∈ t.located ↔ t.at? p = some u := by
  induction p generalizing t with
  | nil =>
      rw [located_eq, List.mem_cons, mem_locatedFrom, at?_nil]
      simp [eq_comm]
  | cons i rest ih =>
      rw [located_eq, List.mem_cons, mem_locatedFrom, at?_cons_eq_some_iff]
      constructor
      · rintro (h | ⟨j, c, hc, y, hy, h⟩)
        · simp at h
        · obtain ⟨⟨rfl, rfl⟩, rfl⟩ : (i = j ∧ rest = y.1) ∧ u = y.2 := by simpa using h
          exact ⟨c, hc, ih.mp hy⟩
      · rintro ⟨c, hc, hu⟩
        refine .inr ⟨i, c, hc, (rest, u), ih.mpr hu, ?_⟩
        rw [Nat.zero_add]

mutual

theorem pairwise_located : ∀ t : Tree, (t.located.map Prod.fst).Pairwise (· < ·)
  | node _ _ _ _ _ children => by
      rw [located, List.map_cons, List.pairwise_cons]
      refine ⟨?_, pairwise_locatedFrom 0 children⟩
      simp only [List.forall_mem_map, mem_locatedFrom]
      rintro _ ⟨j, t, -, y, -, rfl⟩
      exact List.nil_lt_cons _ _

theorem pairwise_locatedFrom : ∀ (i : Nat) (trees : List Tree),
    ((locatedFrom i trees).map Prod.fst).Pairwise (· < ·)
  | _, [] => .nil
  | i, t :: rest => by
      rw [locatedFrom, List.map_append, List.map_map, List.pairwise_append]
      refine ⟨?_, pairwise_locatedFrom (i + 1) rest, ?_⟩
      · have hbelow := pairwise_located t
        rw [List.pairwise_map] at hbelow ⊢
        exact hbelow.imp fun h => List.cons_lt_cons_self.mpr h
      · simp only [List.forall_mem_map, mem_locatedFrom]
        rintro x - _ ⟨j, u, -, y, -, rfl⟩
        -- The first step alone decides between two children.
        exact List.cons_lt_cons_iff.mpr (.inl (by omega))

end

/-- The addresses of the nodes come in the order of a walk. -/
theorem inPreorder_located (t : Tree) : InPreorder (t.located.map Prod.fst) :=
  inPreorder_of_pairwise_lt (pairwise_located t)

/-! ## Picking nodes -/

/-- The nodes of a tree that are picked stand at places in the order of a walk. -/
theorem exists_places_preorder (root : Tree) (picked : Tree → Bool) :
    ∃ places, InPreorder places ∧
      (∀ p, p ∈ places ↔ ∃ t, root.at? p = some t ∧ picked t = true) ∧
      List.Forall₂ (fun p t => root.at? p = some t) places (root.preorder.filter picked) := by
  have hmem : ∀ x ∈ root.located.filter fun x => picked x.2, root.at? x.1 = some x.2 :=
    fun x hx => mem_located.mp (List.mem_filter.mp hx).1
  refine ⟨(root.located.filter fun x => picked x.2).map Prod.fst, ?_, fun p => ?_, ?_⟩
  · exact (inPreorder_located root).sublist (List.filter_sublist.map Prod.fst)
  · simp [mem_located]
  · rw [← map_snd_located, List.filter_map, List.forall₂_map_left_iff, List.forall₂_map_right_iff]
    exact List.forall₂_same.mpr hmem

/-- The children of a node that are picked stand at places below it, in their order. -/
theorem exists_places_children {root t : Tree} {p : Address} (ht : root.at? p = some t)
    (picked : Tree → Bool) :
    ∃ places, InPreorder places ∧
      (∀ q, q ∈ places ↔ ∃ i c, q = p ++ [i] ∧ root.at? q = some c ∧ picked c = true) ∧
      List.Forall₂ (fun q c => root.at? q = some c) places (t.children.filter picked) := by
  have hat : ∀ x ∈ t.children.zipIdx, root.at? (p ++ [x.2]) = some x.1 := by
    intro x hx
    rw [at?_append_singleton ht, ← List.mem_zipIdx_iff_getElem?]
    exact hx
  refine ⟨(t.children.zipIdx.filter fun x => picked x.1).map fun x => p ++ [x.2], ?_,
    fun q => ?_, ?_⟩
  · have hnumbers : t.children.zipIdx.Pairwise fun x y => x.2 < y.2 := by
      rw [← List.pairwise_map (f := Prod.snd), List.zipIdx_map_snd]
      exact List.pairwise_lt_range'
    refine inPreorder_of_pairwise_lt (List.pairwise_map.mpr ((hnumbers.filter _).imp fun h => ?_))
    exact List.append_left_lt (List.cons_lt_cons_iff.mpr (.inl h))
  · simp only [List.mem_map, List.mem_filter]
    constructor
    · rintro ⟨x, ⟨hx, hpicked⟩, rfl⟩
      exact ⟨x.2, x.1, rfl, hat x hx, hpicked⟩
    · rintro ⟨i, c, rfl, hc, hpicked⟩
      rw [at?_append_singleton ht] at hc
      exact ⟨(c, i), ⟨List.mem_zipIdx_iff_getElem?.mpr hc, hpicked⟩, rfl⟩
  · have hchildren : t.children.filter picked =
        (t.children.zipIdx.filter fun x => picked x.1).map Prod.fst := by
      conv => lhs; rw [← List.zipIdx_map_fst 0 t.children, List.filter_map]
      rfl
    rw [hchildren, List.forall₂_map_left_iff, List.forall₂_map_right_iff]
    exact List.forall₂_same.mpr fun x hx => hat x (List.mem_filter.mp hx).1

end Tree

end PythonStyle
