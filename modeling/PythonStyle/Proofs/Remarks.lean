import Mathlib.Data.List.Basic
import PythonStyle.Facts.Parameters

/-!
# Comments in defaults

Parentheses around a literal constant are meant to change nothing, and so are comments and line
continuations, which are named nodes of the tree like any other and stand wherever they were
written.  The verdict on a default looks at nodes by their place, and here a comment does get in
the way: the first node in parentheses is taken for the expression in them, and each node of a
concatenated string for a part of it.  This module says when that happens.

Main definitions:

- `isRemark` and `Tree.withoutRemarks`: comments and line continuations, and a tree without them.
- `IsLiteral`: literal constants, whatever remarks stand in them.
- `RemarkInWay`: whether a remark stands where the verdict looks.

Main results:

- Theorem `constant_withoutRemarks_iff`: without remarks, the literal constants pass.
- Theorem `constant_iff`: those with a remark in the way do not.
- Theorem `constant_defaultValue_iff`: so remarks change the verdict just there.
-/

namespace PythonStyle

/-! ## Trees without remarks -/

/-- Whether a node is a comment or a line continuation. -/
def isRemark (t : Tree) : Bool := t.kind == "comment" || t.kind == "line_continuation"

theorem isRemark_iff {t : Tree} :
    isRemark t = true ↔ t.kind = "comment" ∨ t.kind = "line_continuation" := by
  simp [isRemark]

namespace Tree

mutual

/-- A tree without the comments and line continuations in it. -/
def withoutRemarks : Tree → Tree
  | node kind named field start stop children =>
    node kind named field start stop (withoutRemarksAll children)

/-- Trees without comments and line continuations, be it among them or in them. -/
def withoutRemarksAll : List Tree → List Tree
  | [] => []
  | t :: rest =>
    if isRemark t then withoutRemarksAll rest else withoutRemarks t :: withoutRemarksAll rest

end

@[simp] theorem kind_withoutRemarks (t : Tree) : t.withoutRemarks.kind = t.kind := by
  cases t
  rfl

@[simp] theorem isNamed_withoutRemarks (t : Tree) : t.withoutRemarks.isNamed = t.isNamed := by
  cases t
  rfl

@[simp] theorem start_withoutRemarks (t : Tree) : t.withoutRemarks.start = t.start := by
  cases t
  rfl

@[simp] theorem stop_withoutRemarks (t : Tree) : t.withoutRemarks.stop = t.stop := by
  cases t
  rfl

theorem withoutRemarksAll_eq (trees : List Tree) :
    withoutRemarksAll trees = (trees.filter fun t => !isRemark t).map withoutRemarks := by
  induction trees with
  | nil => rfl
  | cons t trees ih =>
      rw [withoutRemarksAll, ih]
      by_cases h : isRemark t = true
      · simp [h]
      · simp [h]

theorem children_withoutRemarks (t : Tree) :
    t.withoutRemarks.children = (t.children.filter fun c => !isRemark c).map withoutRemarks := by
  cases t
  exact withoutRemarksAll_eq _

/-- The named children of a node that are no remarks. -/
def plainChildren (t : Tree) : List Tree := t.namedChildren.filter fun c => !isRemark c

theorem mem_plainChildren {t c : Tree} :
    c ∈ t.plainChildren ↔ c ∈ t.namedChildren ∧ isRemark c = false := by
  simp [plainChildren]

theorem namedChildren_withoutRemarks (t : Tree) :
    t.withoutRemarks.namedChildren = t.plainChildren.map withoutRemarks := by
  rw [namedChildren, children_withoutRemarks, List.filter_map, plainChildren, namedChildren,
    List.filter_filter, List.filter_filter]
  simp [Bool.and_comm]

/-- The first child stays the first, unless it is a remark. -/
theorem head?_plainChildren {t c : Tree} (h : t.namedChildren.head? = some c)
    (hc : isRemark c = false) : t.plainChildren.head? = some c := by
  obtain ⟨rest, hrest⟩ := List.head?_eq_some_iff.mp h
  simp [plainChildren, hrest, hc]

end Tree

/-! ## Parentheses -/

theorem unparenthesized_of_ne {t : Tree} (h : t.kind ≠ "parenthesized_expression") :
    unparenthesized t = t := by
  rw [unparenthesized, if_neg h]

theorem unparenthesized_of_head? {t inner : Tree} (hkind : t.kind = "parenthesized_expression")
    (h : t.namedChildren.head? = some inner) : unparenthesized t = unparenthesized inner := by
  obtain ⟨rest, hrest⟩ := List.head?_eq_some_iff.mp h
  rw [unparenthesized, if_pos hkind]
  split
  · next first _ hfirst =>
      obtain ⟨rfl, -⟩ := List.cons.inj (hrest.symm.trans hfirst)
      rfl
  · next hnil => simp [hrest] at hnil

theorem unparenthesized_of_empty {t : Tree} (h : t.namedChildren = []) : unparenthesized t = t := by
  rw [unparenthesized]
  split
  · split
    · next hcons => simp [h] at hcons
    · rfl
  · rfl

/-! ## Literal constants -/

/-- The kinds of literal constants that are one token. -/
def tokenKinds : List String := ["integer", "float", "true", "false", "none", "ellipsis"]

/-- Whether an expression is a literal constant, the remarks in it aside: one of the tokens, a
string that is no format string, such strings side by side, or any of these in parentheses. -/
inductive IsLiteral (s : Source) : Tree → Prop where
  | token {t : Tree} (hkind : t.kind ∈ tokenKinds) : IsLiteral s t
  | string {t : Tree} (hkind : t.kind = "string") (hplain : isFormatString s t = false) :
      IsLiteral s t
  | strings {t : Tree} (hkind : t.kind = "concatenated_string")
      (hparts : ∀ part ∈ t.plainChildren, part.kind = "string" ∧ isFormatString s part = false) :
      IsLiteral s t
  | parenthesized {t inner : Tree} (hkind : t.kind = "parenthesized_expression")
      (hinner : t.plainChildren.head? = some inner) (hliteral : IsLiteral s inner) :
      IsLiteral s t

/-- Whether a remark stands where the verdict on a default looks: as the first node in the
parentheses around the expression, or among the strings of which it is made. -/
inductive RemarkInWay : Tree → Prop where
  | first {t remark : Tree} (hkind : t.kind = "parenthesized_expression")
      (hfirst : t.namedChildren.head? = some remark) (hremark : isRemark remark = true) :
      RemarkInWay t
  | inside {t inner : Tree} (hkind : t.kind = "parenthesized_expression")
      (hfirst : t.namedChildren.head? = some inner) (hinner : RemarkInWay inner) : RemarkInWay t
  | among {t part : Tree} (hkind : t.kind = "concatenated_string")
      (hpart : part ∈ t.namedChildren) (hremark : isRemark part = true) : RemarkInWay t

variable {s : Source} {t inner : Tree}

/-- What is a constant, parentheses aside. -/
theorem isConstant_iff : isConstant s t = true ↔ t.kind ∈ tokenKinds ∨
    (t.kind = "string" ∧ isFormatString s t = false) ∨
    (t.kind = "concatenated_string" ∧
      ∀ part ∈ t.namedChildren, part.kind = "string" ∧ isFormatString s part = false) := by
  have htoken : ["integer", "float", "true", "false", "none", "ellipsis"].contains t.kind = true ↔
      t.kind ∈ tokenKinds := List.contains_iff_mem
  unfold isConstant
  split
  · next h => simp [htoken.mp h]
  · next h =>
      have hne : t.kind ∉ tokenKinds := fun hmem => h (htoken.mpr hmem)
      split
      · next hkind =>
          have hkind : t.kind = "string" := by simpa using hkind
          simp [hkind, tokenKinds]
      · next hkind =>
          have hkind : t.kind ≠ "string" := by simpa using hkind
          split
          · next hstrings =>
              have hstrings : t.kind = "concatenated_string" := by simpa using hstrings
              simp [hstrings, tokenKinds]
          · next hstrings =>
              have hstrings : t.kind ≠ "concatenated_string" := by simpa using hstrings
              simp [hne, hkind, hstrings]

/-- Literal constants without parentheses. -/
theorem isLiteral_iff_of_ne (h : t.kind ≠ "parenthesized_expression") :
    IsLiteral s t ↔ t.kind ∈ tokenKinds ∨ (t.kind = "string" ∧ isFormatString s t = false) ∨
      (t.kind = "concatenated_string" ∧
        ∀ part ∈ t.plainChildren, part.kind = "string" ∧ isFormatString s part = false) := by
  constructor
  · rintro (hkind | ⟨hkind, hplain⟩ | ⟨hkind, hparts⟩ | hkind)
    · exact .inl hkind
    · exact .inr (.inl ⟨hkind, hplain⟩)
    · exact .inr (.inr ⟨hkind, hparts⟩)
    · exact absurd hkind h
  · rintro (hkind | ⟨hkind, hplain⟩ | ⟨hkind, hparts⟩)
    · exact .token hkind
    · exact .string hkind hplain
    · exact .strings hkind hparts

/-- In parentheses, what counts is the first node that is no remark. -/
theorem isLiteral_iff_of_eq (h : t.kind = "parenthesized_expression") :
    IsLiteral s t ↔ ∃ inner, t.plainChildren.head? = some inner ∧ IsLiteral s inner := by
  constructor
  · rintro (hkind | ⟨hkind, -⟩ | ⟨hkind, -⟩ | ⟨-, hinner, hliteral⟩)
    · simp [h, tokenKinds] at hkind
    · simp [h] at hkind
    · simp [h] at hkind
    · exact ⟨_, hinner, hliteral⟩
  · rintro ⟨inner, hinner, hliteral⟩
    exact .parenthesized h hinner hliteral

/-! ## The verdict -/

/-- Remarks do not make a string a format string, nor keep it from being one. -/
@[simp] theorem isFormatString_withoutRemarks (s : Source) (t : Tree) :
    isFormatString s t.withoutRemarks = isFormatString s t := by
  rw [isFormatString, isFormatString, Tree.namedChildren_withoutRemarks, Tree.plainChildren,
    List.any_map, List.any_filter]
  congr 1
  funext c
  have htext : s.textOf c.withoutRemarks = s.textOf c := by simp [Source.textOf]
  cases hremark : isRemark c with
  | false => simp [htext]
  | true =>
      -- A remark is neither of the nodes that tell a format string.
      rcases isRemark_iff.mp hremark with hkind | hkind <;> simp [hkind]

/-- Without remarks, an expression is taken for a constant exactly if it is a literal constant. -/
theorem constant_withoutRemarks_iff (s : Source) (t : Tree) :
    isConstant s (unparenthesized t.withoutRemarks) = true ↔ IsLiteral s t := by
  by_cases hkind : t.kind = "parenthesized_expression"
  · have hkind' : t.withoutRemarks.kind = "parenthesized_expression" := by simpa using hkind
    rw [isLiteral_iff_of_eq hkind]
    cases hinner : t.plainChildren.head? with
    | none =>
        have hnil : t.withoutRemarks.namedChildren = [] := by
          rw [Tree.namedChildren_withoutRemarks, List.head?_eq_none_iff.mp hinner, List.map_nil]
        rw [unparenthesized_of_empty hnil]
        simp [isConstant_iff, hkind, tokenKinds]
    | some inner =>
        have hhead : t.withoutRemarks.namedChildren.head? = some inner.withoutRemarks := by
          rw [Tree.namedChildren_withoutRemarks, List.head?_map, hinner, Option.map_some]
        have hmem : inner ∈ t.namedChildren :=
          (Tree.mem_plainChildren.mp (List.mem_of_head? hinner)).1
        rw [unparenthesized_of_head? hkind' hhead, constant_withoutRemarks_iff s inner]
        simp
  · have hkind' : t.withoutRemarks.kind ≠ "parenthesized_expression" := by simpa using hkind
    rw [unparenthesized_of_ne hkind', isConstant_iff, isLiteral_iff_of_ne hkind]
    simp [Tree.namedChildren_withoutRemarks]
termination_by sizeOf t
decreasing_by exact Tree.sizeOf_lt_of_mem_children (Tree.mem_children_of_mem_namedChildren hmem)

/-- A remark is no constant. -/
theorem isConstant_unparenthesized_of_isRemark (s : Source) (h : isRemark t = true) :
    isConstant s (unparenthesized t) = false := by
  have hkind := isRemark_iff.mp h
  have hne : t.kind ≠ "parenthesized_expression" := by
    rcases hkind with hkind | hkind <;> simp [hkind]
  rw [unparenthesized_of_ne hne, ← Bool.not_eq_true, isConstant_iff]
  rcases hkind with hkind | hkind <;> simp [hkind, tokenKinds]

/-- The strings of a concatenation are constants if there is no remark among them. -/
theorem forall_namedChildren_iff {p : Tree → Prop} (hp : ∀ c, p c → isRemark c = false) :
    (∀ c ∈ t.namedChildren, p c) ↔
      (∀ c ∈ t.plainChildren, p c) ∧ ¬ ∃ c ∈ t.namedChildren, isRemark c = true := by
  constructor
  · intro h
    refine ⟨fun c hc => h c (Tree.mem_plainChildren.mp hc).1, ?_⟩
    rintro ⟨c, hc, hremark⟩
    rw [hp c (h c hc)] at hremark
    cases hremark
  · rintro ⟨hplain, hnone⟩ c hc
    refine hplain c (Tree.mem_plainChildren.mpr ⟨hc, ?_⟩)
    exact Bool.eq_false_iff.mpr fun hremark => hnone ⟨c, hc, hremark⟩

/-- Without parentheses, a remark is in the way only among strings. -/
theorem remarkInWay_iff_of_ne (h : t.kind ≠ "parenthesized_expression") :
    RemarkInWay t ↔
      t.kind = "concatenated_string" ∧ ∃ c ∈ t.namedChildren, isRemark c = true := by
  constructor
  · rintro (⟨hkind, -⟩ | ⟨hkind, -⟩ | ⟨hkind, hpart, hremark⟩)
    · exact absurd hkind h
    · exact absurd hkind h
    · exact ⟨hkind, _, hpart, hremark⟩
  · rintro ⟨hkind, c, hc, hremark⟩
    exact .among hkind hc hremark

/-- In parentheses, it is the first node or in the way there. -/
theorem remarkInWay_iff_of_eq (h : t.kind = "parenthesized_expression")
    (hfirst : t.namedChildren.head? = some inner) :
    RemarkInWay t ↔ isRemark inner = true ∨ RemarkInWay inner := by
  constructor
  · rintro (⟨-, hhead, hremark⟩ | ⟨-, hhead, hinner⟩ | ⟨hkind, -⟩)
    · exact .inl (Option.some.inj (hhead.symm.trans hfirst) ▸ hremark)
    · exact .inr (Option.some.inj (hhead.symm.trans hfirst) ▸ hinner)
    · simp [h] at hkind
  · rintro (hremark | hinner)
    · exact .first h hfirst hremark
    · exact .inside h hfirst hinner

/-- An expression is taken for a constant exactly if it is a literal constant with no remark in
the way. -/
theorem constant_iff (s : Source) (t : Tree) :
    isConstant s (unparenthesized t) = true ↔ IsLiteral s t ∧ ¬ RemarkInWay t := by
  by_cases hkind : t.kind = "parenthesized_expression"
  · cases hfirst : t.namedChildren.head? with
    | none =>
        have hnil := List.head?_eq_none_iff.mp hfirst
        rw [unparenthesized_of_empty hnil, isLiteral_iff_of_eq hkind]
        simp [isConstant_iff, hkind, tokenKinds, Tree.plainChildren, hnil]
    | some inner =>
        have hmem : inner ∈ t.namedChildren := List.mem_of_head? hfirst
        rw [unparenthesized_of_head? hkind hfirst, remarkInWay_iff_of_eq hkind hfirst]
        cases hremark : isRemark inner with
        | true => simp [isConstant_unparenthesized_of_isRemark s hremark]
        | false =>
            rw [constant_iff s inner, isLiteral_iff_of_eq hkind,
              Tree.head?_plainChildren hfirst hremark]
            simp
  · have hstring (c : Tree) : (c.kind = "string" ∧ isFormatString s c = false) →
        isRemark c = false := fun h => by simp [isRemark, h.1]
    rw [unparenthesized_of_ne hkind, isConstant_iff, isLiteral_iff_of_ne hkind,
      remarkInWay_iff_of_ne hkind, forall_namedChildren_iff hstring]
    by_cases hstrings : t.kind = "concatenated_string"
    · simp [hstrings, tokenKinds]
    · simp [hstrings]
termination_by sizeOf t
decreasing_by exact Tree.sizeOf_lt_of_mem_children (Tree.mem_children_of_mem_namedChildren hmem)

/-- Without its comments and line continuations, a default is judged to be constant exactly if it
is a literal constant.  With them the verdict is the same, unless one of them stands first in the
parentheses around the expression or among the strings that make it up: then a literal constant is
judged not to be constant. -/
theorem constant_defaultValue_iff (s : Source) (t : Tree) :
    ((defaultValue s t.withoutRemarks).constant = true ↔ IsLiteral s t) ∧
      ((defaultValue s t).constant = true ↔
        (defaultValue s t.withoutRemarks).constant = true ∧ ¬ RemarkInWay t) := by
  have hwithout : (defaultValue s t.withoutRemarks).constant = true ↔ IsLiteral s t :=
    constant_withoutRemarks_iff s t
  refine ⟨hwithout, ?_⟩
  rw [hwithout]
  exact constant_iff s t

/-- A function with a default in parentheses, and a comment in front of it there. -/
def remarkText : String := "def f(a=(  # c\n        1)):\n    pass\n"

/-- The tree of the default. -/
def remarkDefault : Tree :=
  .node "parenthesized_expression" true (some "value") 8 25 [
    .node "(" false none 8 9 [],
    .node "comment" true none 11 14 [],
    .node "integer" true none 23 24 [],
    .node ")" false none 24 25 []]

/-- A comment may change the verdict: a number behind a comment in parentheses is judged not to be
constant. -/
theorem not_forall_constant_withoutRemarks :
    ¬ ∀ (s : Source) (t : Tree),
      (defaultValue s t).constant = (defaultValue s t.withoutRemarks).constant := by
  intro hall
  have hwithout : (defaultValue (Source.ofText remarkText) remarkDefault.withoutRemarks).constant =
      true :=
    (constant_withoutRemarks_iff _ _).mpr (.parenthesized rfl rfl (.token (by decide)))
  rw [← hall] at hwithout
  exact ((constant_iff _ _).mp hwithout).2 (.first rfl rfl rfl)

end PythonStyle
