import Mathlib.Data.List.DropRight
import PythonStyle.Acceptance
import PythonStyle.Proofs.Addresses
import PythonStyle.Proofs.Walk

/-!
# Sections of a parameter list

A parameter list is read twice, once for the facts about a function and once to see whether its
program is accepted.  Both readings end at the same node, the first that only keywords can reach.
This module says what each of them finds in the nodes before that one.

Main definitions:

- `ParameterList.reachable`: the nodes that can be reached by position.
- `ParameterList.nameNodes` and `ParameterList.defaultNodes`: the nodes of the names behind the last
  slash, and of all defaults.
- `HasFields`: what is relied on of parameters with defaults.
- `ParameterSection.Describes`: what was read of some nodes.

Main results:

- Theorem `ParameterNode.classify_cases`: what a node of a parameter list is, by its kind.
- Theorem `ParameterSection.Describes.read`: reading on describes the nodes up to the barrier.
- Theorem `parameterFacts_eq`: the facts about a parameter list, from its nodes.
- Theorem `requiredAfterDefault_iff`: when a required parameter follows one with a default.
- Theorem `parameterFacts_sections`: both readings of a parameter list, and what an accepted
  program has in it.
-/

namespace PythonStyle

/-! ## Kinds of nodes -/

namespace ParameterNode

/-- Whether a node starts what only keywords can reach. -/
def isBarrier (t : Tree) : Bool :=
  ["keyword_separator", "list_splat_pattern", "dictionary_splat_pattern"].contains t.kind ||
    (t.kind == "typed_parameter" && !t.namedChildren.head?.any (·.kind == "identifier"))

/-- Whether a node in front of the barrier is a parameter without a default. -/
def isRequired (t : Tree) : Bool :=
  ["identifier", "typed_parameter"].contains t.kind

/-- Whether a node is a parameter with a default. -/
def isDefaulted (t : Tree) : Bool :=
  ["default_parameter", "typed_default_parameter"].contains t.kind

/-- Whether a node in front of the barrier is a parameter with a name. -/
def isNamed (t : Tree) : Bool := isRequired t || isDefaulted t

theorem isNamed_of_isRequired {t : Tree} (h : isRequired t = true) : isNamed t = true := by
  rw [isNamed, h, Bool.true_or]

theorem isNamed_of_isDefaulted {t : Tree} (h : isDefaulted t = true) : isNamed t = true := by
  rw [isNamed, h, Bool.or_true]

theorem isNamed_eq_false_iff {t : Tree} :
    isNamed t = false ↔ isRequired t = false ∧ isDefaulted t = false :=
  Bool.or_eq_false_iff

/-- Whether a node is the slash behind the positional-only parameters. -/
def isSlash (t : Tree) : Bool := t.kind == "positional_separator"

/-- The node of the name of a parameter. -/
def name? (t : Tree) : Option Tree :=
  if t.kind = "identifier" then some t
  else if t.kind = "typed_parameter" then t.namedChildren.head?
  else t.child? "name"

/-- What a node of a parameter list is, by its kind. -/
theorem classify_cases (t : Tree) :
    (∃ name, classify t = .required name ∧ isBarrier t = false ∧ isRequired t = true ∧
        isDefaulted t = false ∧ isSlash t = false ∧ name? t = some name) ∨
      (classify t = .defaulted (name? t) (t.child? "value") ∧ isBarrier t = false ∧
        isRequired t = false ∧ isDefaulted t = true ∧ isSlash t = false) ∨
      (classify t = .slash ∧ isBarrier t = false ∧ isNamed t = false ∧ isSlash t = true) ∨
      (classify t = .barrier ∧ isBarrier t = true) ∨
      (classify t = .other ∧ isBarrier t = false ∧ isNamed t = false ∧ isSlash t = false) := by
  unfold classify
  split
  · next hkind =>
      simp [isBarrier, isRequired, isDefaulted, isSlash, name?, hkind]
  · next hkind =>
      cases hinner : t.namedChildren.head? with
      | none => simp [isBarrier, hkind, hinner]
      | some inner =>
          by_cases hidentifier : inner.kind = "identifier"
          · simp [isBarrier, isRequired, isDefaulted, isSlash, name?, hkind, hinner, hidentifier]
          · simp [isBarrier, hkind, hinner, hidentifier]
  · next hkind => simp [isBarrier, isRequired, isDefaulted, isSlash, name?, hkind]
  · next hkind => simp [isBarrier, isRequired, isDefaulted, isSlash, name?, hkind]
  · next hkind => simp [isBarrier, isNamed, isRequired, isDefaulted, isSlash, hkind]
  · next hkind => simp [isBarrier, hkind]
  · next hkind => simp [isBarrier, hkind]
  · next hkind => simp [isBarrier, hkind]
  · simp_all [isBarrier, isNamed, isRequired, isDefaulted, isSlash]

/-- The name of a parameter in front of the barrier is an identifier, or the field of a parameter
with a default. -/
theorem name?_cases {c : Tree} (hnamed : isNamed c = true) (hbarrier : isBarrier c = false) :
    (∃ name, name? c = some name ∧ name.kind = "identifier") ∨
      isDefaulted c = true ∧ name? c = c.child? "name" := by
  by_cases hidentifier : c.kind = "identifier"
  · exact .inl ⟨c, by rw [name?, if_pos hidentifier], hidentifier⟩
  · by_cases htyped : c.kind = "typed_parameter"
    · cases hinner : c.namedChildren.head? with
      | none => simp [isBarrier, htyped, hinner] at hbarrier
      | some inner =>
          refine .inl ⟨inner, by rw [name?, if_neg hidentifier, if_pos htyped, hinner], ?_⟩
          simpa [isBarrier, htyped, hinner] using hbarrier
    · have hrequired : isRequired c = false := by simp [isRequired, hidentifier, htyped]
      rw [isNamed, hrequired, Bool.false_or] at hnamed
      exact .inr ⟨hnamed, by rw [name?, if_neg hidentifier, if_neg htyped]⟩

end ParameterNode

/-! ## Nodes of a list -/

namespace ParameterList

open ParameterNode

/-- The nodes of a parameter list that can be reached by position. -/
def reachable (t : Tree) : List Tree := t.namedChildren.takeWhile fun c => !isBarrier c

/-- The nodes behind the last slash; all nodes if there is no slash. -/
def behindSlash (nodes : List Tree) : List Tree := nodes.rtakeWhile fun c => !isSlash c

/-- The nodes of the names of parameters. -/
def nameNodes (nodes : List Tree) : List Tree := (nodes.filter isNamed).filterMap name?

/-- The nodes of the defaults of parameters. -/
def defaultNodes (nodes : List Tree) : List Tree :=
  (nodes.filter isDefaulted).filterMap fun c => c.child? "value"

theorem mem_reachable {t c : Tree} (h : c ∈ reachable t) :
    c ∈ t.namedChildren ∧ isBarrier c = false :=
  ⟨(List.takeWhile_prefix _).subset h, by simpa using List.mem_takeWhile_imp h⟩

theorem mem_of_mem_behindSlash {nodes : List Tree} {c : Tree} (h : c ∈ behindSlash nodes) :
    c ∈ nodes :=
  (List.rtakeWhile_suffix _ _).subset h

/-- The names are nodes of the tree. -/
theorem mem_preorder_of_mem_nameNodes {root t name : Tree} (ht : t ∈ root.preorder)
    (h : name ∈ nameNodes (behindSlash (reachable t))) : name ∈ root.preorder := by
  obtain ⟨c, hc, hname⟩ := List.mem_filterMap.mp h
  have hreachable := mem_of_mem_behindSlash (List.mem_filter.mp hc).1
  have hmem := Tree.mem_preorder_of_mem_namedChildren ht (mem_reachable hreachable).1
  unfold name? at hname
  split at hname
  · exact Option.some.inj hname ▸ hmem
  · split at hname
    · exact Tree.mem_preorder_of_mem_namedChildren hmem (List.mem_of_head? hname)
    · exact Tree.mem_preorder_of_child? hmem hname

/-- The defaults are nodes of the tree. -/
theorem mem_preorder_of_mem_defaultNodes {root t value : Tree} (ht : t ∈ root.preorder)
    (h : value ∈ defaultNodes (reachable t)) : value ∈ root.preorder := by
  obtain ⟨c, hc, hvalue⟩ := List.mem_filterMap.mp h
  have hreachable := mem_reachable (List.mem_filter.mp hc).1
  have hmem := Tree.mem_preorder_of_mem_namedChildren ht hreachable.1
  exact Tree.mem_preorder_of_child? hmem hvalue

/-- Parentheses hold a node of the tree. -/
theorem mem_preorder_unparenthesized {root t : Tree} (h : t ∈ root.preorder) :
    unparenthesized t ∈ root.preorder := by
  fun_induction unparenthesized t with
  | case1 t hkind inner more hinner ih =>
      exact ih (Tree.mem_preorder_of_mem_namedChildren h (hinner ▸ List.mem_cons_self))
  | case2 | case3 => exact h

theorem behindSlash_concat (nodes : List Tree) (t : Tree) :
    behindSlash (nodes ++ [t]) = if isSlash t then [] else behindSlash nodes ++ [t] := by
  rw [behindSlash, List.rtakeWhile_concat]
  cases isSlash t <;> rfl

theorem nameNodes_concat (nodes : List Tree) (t : Tree) :
    nameNodes (nodes ++ [t]) = nameNodes nodes ++ if isNamed t then (name? t).toList else [] := by
  rw [nameNodes, List.filter_append, List.filterMap_append]
  cases h : isNamed t with
  | false => simp [nameNodes, h]
  | true => cases hname : name? t <;> simp [nameNodes, h, hname]

theorem defaultNodes_concat (nodes : List Tree) (t : Tree) :
    defaultNodes (nodes ++ [t]) =
      defaultNodes nodes ++ if isDefaulted t then (t.child? "value").toList else [] := by
  rw [defaultNodes, List.filter_append, List.filterMap_append]
  cases h : isDefaulted t with
  | false => simp [defaultNodes, h]
  | true => cases hvalue : t.child? "value" <;> simp [defaultNodes, h, hvalue]

end ParameterList

/-! ## Reading the facts -/

namespace ParameterSection

open ParameterNode ParameterList

/-- What was read of some nodes: the parameters that are not positional only have the names
behind the last slash, and the defaults are those of all nodes. -/
structure Describes (s : Source) (now : ParameterSection) (nodes : List Tree) : Prop where
  positionalOnly_le : now.positionalOnly ≤ now.positional.length
  names : now.positional.drop now.positionalOnly =
    (nameNodes (behindSlash nodes)).map (parameterOf s)
  defaults : now.defaults = (defaultNodes nodes).map (defaultValue s)

namespace Describes

variable {s : Source} {now : ParameterSection} {nodes : List Tree} {t : Tree}

theorem start (s : Source) : Describes s {} [] := ⟨Nat.le_refl 0, rfl, rfl⟩

/-- A parameter, with or without a default. -/
theorem parameter (h : Describes s now nodes) (hnamed : isNamed t = true)
    (hslash : isSlash t = false) :
    Describes s
      { now with
        positional := now.positional ++ ((name? t).map (parameterOf s)).toList
        defaults := now.defaults ++
          if isDefaulted t then ((t.child? "value").map (defaultValue s)).toList else [] }
      (nodes ++ [t]) where
  positionalOnly_le := by
    rw [List.length_append]
    exact Nat.le_add_right_of_le h.positionalOnly_le
  names := by
    rw [List.drop_append_of_le_length h.positionalOnly_le, h.names, behindSlash_concat, hslash,
      if_neg Bool.false_ne_true, nameNodes_concat, if_pos hnamed, List.map_append]
    cases name? t <;> rfl
  defaults := by
    rw [h.defaults, defaultNodes_concat, List.map_append]
    cases isDefaulted t <;> cases t.child? "value" <;> rfl

/-- A slash makes all parameters before it positional only. -/
theorem slash (h : Describes s now nodes) (hnamed : isNamed t = false)
    (hslash : isSlash t = true) :
    Describes s { now with positionalOnly := now.positional.length } (nodes ++ [t]) where
  positionalOnly_le := Nat.le_refl _
  names := by
    rw [List.drop_length, behindSlash_concat, if_pos hslash]
    rfl
  defaults := by
    have hdefaulted := (isNamed_eq_false_iff.mp hnamed).2
    rw [h.defaults, defaultNodes_concat, hdefaulted, if_neg Bool.false_ne_true, List.append_nil]

/-- A node that is neither a parameter nor a slash adds nothing. -/
theorem other (h : Describes s now nodes) (hnamed : isNamed t = false)
    (hslash : isSlash t = false) : Describes s now (nodes ++ [t]) where
  positionalOnly_le := h.positionalOnly_le
  names := by
    rw [h.names, behindSlash_concat, hslash, if_neg Bool.false_ne_true, nameNodes_concat, hnamed,
      if_neg Bool.false_ne_true, List.append_nil]
  defaults := by
    have hdefaulted := (isNamed_eq_false_iff.mp hnamed).2
    rw [h.defaults, defaultNodes_concat, hdefaulted, if_neg Bool.false_ne_true, List.append_nil]

/-- Reading on adds the nodes up to the barrier to those that were read. -/
theorem read (h : Describes s now nodes) (more : List Tree) :
    Describes s (ParameterSection.read s more now)
      (nodes ++ more.takeWhile fun c => !isBarrier c) := by
  induction more generalizing now nodes with
  | nil => simpa [ParameterSection.read] using h
  | cons t more ih =>
      rw [ParameterSection.read]
      rcases classify_cases t with
        ⟨name, hclass, hbarrier, hrequired, hdefaulted, hslash, hname⟩ |
        ⟨hclass, hbarrier, hrequired, hdefaulted, hslash⟩ | ⟨hclass, hbarrier, hnamed, hslash⟩ |
        ⟨hclass, hbarrier⟩ | ⟨hclass, hbarrier, hnamed, hslash⟩
      · have hnow := h.parameter (isNamed_of_isRequired hrequired) hslash
        simpa [hclass, hbarrier, hname, hdefaulted] using ih hnow
      · have hnow := h.parameter (isNamed_of_isDefaulted hdefaulted) hslash
        simpa [hclass, hbarrier, hdefaulted] using ih hnow
      · simpa [hclass, hbarrier] using ih (h.slash hnamed hslash)
      · simpa [hclass, hbarrier] using h
      · simpa [hclass, hbarrier] using ih (h.other hnamed hslash)

end Describes

end ParameterSection

section Lists

open ParameterNode ParameterList

/-- The facts about a parameter list are those about the names behind the last slash and about
all defaults, up to the barrier. -/
theorem parameterFacts_eq (s : Source) (t : Tree) :
    parameterFacts s t =
      ((nameNodes (behindSlash (reachable t))).map (parameterOf s),
        (defaultNodes (reachable t)).map (defaultValue s)) := by
  have h := (ParameterSection.Describes.start s).read t.namedChildren
  exact Prod.ext h.names h.defaults

/-- The parameters of a function are those of its list that have a name behind the last slash. -/
theorem mem_params_functionFacts {s : Source} {t : Tree} {p : Parameter}
    (h : p ∈ (functionFacts s t).params) :
    ∃ list, t.child? "parameters" = some list ∧
      ∃ name ∈ nameNodes (behindSlash (reachable list)), p = parameterOf s name := by
  rw [params_functionFacts] at h
  cases hlist : t.child? "parameters" with
  | none => simp [hlist] at h
  | some list =>
      rw [hlist, Option.map_some, Option.getD_some, parameterFacts_eq] at h
      obtain ⟨name, hname, rfl⟩ := List.mem_map.mp h
      exact ⟨list, rfl, name, hname, rfl⟩

/-- The defaults of a function are those of its list. -/
theorem mem_defaults_functionFacts {s : Source} {t : Tree} {d : DefaultValue}
    (h : d ∈ (functionFacts s t).defaults) :
    ∃ list, t.child? "parameters" = some list ∧
      ∃ value ∈ defaultNodes (reachable list), d = defaultValue s value := by
  rw [defaults_functionFacts] at h
  cases hlist : t.child? "parameters" with
  | none => simp [hlist] at h
  | some list =>
      rw [hlist, Option.map_some, Option.getD_some, parameterFacts_eq] at h
      obtain ⟨value, hvalue, rfl⟩ := List.mem_map.mp h
      exact ⟨list, rfl, value, hvalue, rfl⟩

/-! ## Required parameters and defaults -/

/-- Whether some required parameter follows one with a default. -/
def RequiredBehindDefault (nodes : List Tree) : Prop :=
  ∃ d r, [d, r].Sublist nodes ∧ isDefaulted d = true ∧ isRequired r = true

theorem requiredBehindDefault_cons {t : Tree} {nodes : List Tree} :
    RequiredBehindDefault (t :: nodes) ↔
      (isDefaulted t = true ∧ ∃ r ∈ nodes, isRequired r = true) ∨ RequiredBehindDefault nodes := by
  constructor
  · rintro ⟨d, r, hsublist, hd, hr⟩
    rcases List.sublist_cons_iff.mp hsublist with h | ⟨rest, hrest, h⟩
    · exact .inr ⟨d, r, h, hd, hr⟩
    · obtain ⟨rfl, rfl⟩ := List.cons.inj hrest
      exact .inl ⟨hd, r, List.singleton_sublist.mp h, hr⟩
  · rintro (⟨hd, r, hmem, hr⟩ | ⟨d, r, hsublist, hd, hr⟩)
    · exact ⟨t, r, List.cons_sublist_cons.mpr (List.singleton_sublist.mpr hmem), hd, hr⟩
    · exact ⟨d, r, hsublist.cons t, hd, hr⟩

/-- From a start where a default was met or not, a required parameter is found if it follows a
default, here or before. -/
theorem requiredAfter_iff (met : Bool) (nodes : List Tree) :
    requiredAfter met nodes = true ↔
      (met = true ∧ ∃ r ∈ nodes.takeWhile (fun c => !isBarrier c), isRequired r = true) ∨
        RequiredBehindDefault (nodes.takeWhile fun c => !isBarrier c) := by
  induction nodes generalizing met with
  | nil => simp [requiredAfter, RequiredBehindDefault]
  | cons t nodes ih =>
      rw [requiredAfter]
      rcases classify_cases t with
        ⟨name, hclass, hbarrier, hrequired, hdefaulted, -⟩ |
        ⟨hclass, hbarrier, hrequired, hdefaulted, -⟩ | ⟨hclass, hbarrier, hnamed, -⟩ |
        ⟨hclass, hbarrier⟩ | ⟨hclass, hbarrier, hnamed, -⟩
      · simp only [hclass, hbarrier, Bool.or_eq_true, ih, Bool.not_false,
          List.takeWhile_cons_of_pos, requiredBehindDefault_cons, hrequired, hdefaulted,
          List.mem_cons, exists_eq_or_imp, Bool.false_eq_true, false_and, false_or, true_or,
          and_true]
        tauto
      · simp only [hclass, hbarrier, ih, Bool.not_false, List.takeWhile_cons_of_pos,
          requiredBehindDefault_cons, hrequired, hdefaulted, List.mem_cons, exists_eq_or_imp,
          Bool.false_eq_true, false_or, true_and]
        exact ⟨.inr, fun h => h.elim (fun h => .inl h.2) id⟩
      · obtain ⟨hrequired, hdefaulted⟩ := isNamed_eq_false_iff.mp hnamed
        simp [hclass, hbarrier, ih, requiredBehindDefault_cons, hrequired, hdefaulted]
      · simp [hclass, hbarrier, RequiredBehindDefault]
      · obtain ⟨hrequired, hdefaulted⟩ := isNamed_eq_false_iff.mp hnamed
        simp [hclass, hbarrier, ih, requiredBehindDefault_cons, hrequired, hdefaulted]

/-- Whether a required parameter follows one with a default is asked of the nodes up to the
barrier. -/
theorem requiredAfterDefault_iff (t : Tree) :
    requiredAfterDefault t = true ↔ RequiredBehindDefault (reachable t) := by
  -- At the start no default was met, so only the second case is left.
  rw [requiredAfterDefault, requiredAfter_iff]
  simp [reachable]

theorem isDefaulted_of_isRequired {t : Tree} (h : isRequired t = true) :
    isDefaulted t = false := by
  have hkind : t.kind = "identifier" ∨ t.kind = "typed_parameter" := by
    simpa [isRequired] using h
  rcases hkind with hkind | hkind <;> simp [isDefaulted, hkind]

/-- If no required parameter follows one with a default, the required ones come first. -/
theorem filter_isNamed {nodes : List Tree} (h : ¬ RequiredBehindDefault nodes) :
    nodes.filter isNamed = nodes.filter isRequired ++ nodes.filter isDefaulted := by
  induction nodes with
  | nil => rfl
  | cons t nodes ih =>
      rw [requiredBehindDefault_cons, not_or] at h
      have hnodes := ih h.2
      cases hrequired : isRequired t with
      | true =>
          have hdefaulted : isDefaulted t = false := isDefaulted_of_isRequired hrequired
          have hnamed : isNamed t = true := isNamed_of_isRequired hrequired
          simp [hrequired, hdefaulted, hnamed, hnodes]
      | false =>
          cases hdefaulted : isDefaulted t with
          | true =>
              have hnamed : isNamed t = true := isNamed_of_isDefaulted hdefaulted
              have hnone : nodes.filter isRequired = [] := by
                rw [List.filter_eq_nil_iff]
                exact fun r hr hrequired => h.1 ⟨hdefaulted, r, hr, hrequired⟩
              simp [hrequired, hdefaulted, hnamed, hnodes, hnone]
          | false =>
              have hnamed : isNamed t = false := isNamed_eq_false_iff.mpr ⟨hrequired, hdefaulted⟩
              simp [hrequired, hdefaulted, hnamed, hnodes]

/-! ## Both readings -/

/-- A parameter in front of the barrier has a name, if parameters with defaults have one. -/
theorem isSome_name? {c : Tree} (hnamed : isNamed c = true) (hbarrier : isBarrier c = false)
    (hname : isDefaulted c = true → (c.child? "name").isSome) : (name? c).isSome = true := by
  rcases name?_cases hnamed hbarrier with ⟨name, hc, -⟩ | ⟨hdefaulted, hc⟩
  · rw [hc]
    rfl
  · rw [hc]
    exact hname hdefaulted

/-- The nodes of parameters give the parameters, one each, if those with defaults have a name. -/
theorem forall₂_nameNodes (s : Source) {nodes : List Tree}
    (hbarrier : ∀ c ∈ nodes, isBarrier c = false)
    (hname : ∀ c ∈ nodes, isDefaulted c = true → (c.child? "name").isSome) :
    List.Forall₂ (fun c p => ∃ name, name? c = some name ∧ p = parameterOf s name)
      (nodes.filter isNamed) ((nameNodes nodes).map (parameterOf s)) := by
  have hsome : ∀ c ∈ nodes.filter isNamed, (name? c).isSome = true := by
    intro c hc
    obtain ⟨hmem, hnamed⟩ := List.mem_filter.mp hc
    exact isSome_name? hnamed (hbarrier c hmem) (hname c hmem)
  have hpicked := forall₂_filterMap name? (nodes.filter isNamed)
  rw [List.filter_eq_self.mpr hsome] at hpicked
  rw [List.forall₂_map_right_iff]
  exact hpicked.imp fun c name hname => ⟨name, hname, rfl⟩

/-- The nodes of parameters with defaults give the defaults, one each, if they have one. -/
theorem forall₂_defaultNodes (s : Source) {nodes : List Tree}
    (hvalue : ∀ c ∈ nodes, isDefaulted c = true → (c.child? "value").isSome) :
    List.Forall₂ (fun c d => ∃ value, c.child? "value" = some value ∧ d = defaultValue s value)
      (nodes.filter isDefaulted) ((defaultNodes nodes).map (defaultValue s)) := by
  have hsome : ∀ c ∈ nodes.filter isDefaulted, (c.child? "value").isSome = true := by
    intro c hc
    obtain ⟨hmem, hdefaulted⟩ := List.mem_filter.mp hc
    exact hvalue c hmem hdefaulted
  have hpicked := forall₂_filterMap (fun c : Tree => c.child? "value") (nodes.filter isDefaulted)
  rw [List.filter_eq_self.mpr hsome] at hpicked
  rw [List.forall₂_map_right_iff]
  exact hpicked.imp fun c value hvalue => ⟨value, hvalue, rfl⟩

/-- No node of an accepted tree is rejected. -/
theorem isRejected_of_accepted? {parser : Parser} {s : Source} {root t : Tree}
    (h : accepted? parser s = some root) (ht : t ∈ root.preorder) : isRejected t = false := by
  obtain ⟨u, -, h⟩ := Option.bind_eq_some_iff.mp h
  split at h
  · cases h
  · next hrejected =>
      obtain rfl := Option.some.inj h
      have hconstruct : rejectedConstruct u = false :=
        (Bool.or_eq_false_iff.mp (Bool.not_eq_true _ ▸ hrejected)).1
      rw [rejectedConstruct, Tree.any_focus_eq_any_preorder] at hconstruct
      simpa using List.any_eq_false.mp hconstruct t ht

/-- An accepted program has no required parameter behind one with a default. -/
theorem not_requiredBehindDefault_of_accepted? {parser : Parser} {s : Source} {root t : Tree}
    (h : accepted? parser s = some root) (ht : t ∈ root.preorder)
    (hkind : t.kind = "parameters" ∨ t.kind = "lambda_parameters") :
    ¬ RequiredBehindDefault (reachable t) := by
  intro hbehind
  have hrejected := isRejected_of_accepted? h ht
  have hrequired : requiredAfterDefault t = true := (requiredAfterDefault_iff t).mpr hbehind
  rcases hkind with hkind | hkind <;> simp [isRejected, hkind, hrequired] at hrejected

/-- What is relied on of a parameter list: its parameters with defaults have a name and a
default. -/
def HasFields (t : Tree) : Prop :=
  ∀ c ∈ t.namedChildren, isDefaulted c = true →
    (c.child? "name").isSome ∧ (c.child? "value").isSome

instance : DecidablePred HasFields := fun t =>
  inferInstanceAs (Decidable (∀ c ∈ t.namedChildren, isDefaulted c = true → _ ∧ _))

/-- Both readings of a parameter list look at the nodes before the first that only keywords can
reach, and at nothing else.  The facts have the name of each parameter behind the last slash and
the default of each parameter that has one; a list is rejected if a required parameter follows one
with a default; and so, in an accepted program, the required parameters come first, and those with
defaults, as many as there are defaults, behind them. -/
theorem parameterFacts_sections (s : Source) {t : Tree} (h : HasFields t) :
    List.Forall₂ (fun c p => ∃ name, name? c = some name ∧ p = parameterOf s name)
        ((behindSlash (reachable t)).filter isNamed) (parameterFacts s t).1 ∧
      List.Forall₂ (fun c d => ∃ value, c.child? "value" = some value ∧ d = defaultValue s value)
        ((reachable t).filter isDefaulted) (parameterFacts s t).2 ∧
      (requiredAfterDefault t = true ↔
        ∃ d r, [d, r].Sublist (reachable t) ∧ isDefaulted d = true ∧ isRequired r = true) ∧
      ∀ (parser : Parser) (source : Source) (root : Tree), accepted? parser source = some root →
        t ∈ root.preorder → (t.kind = "parameters" ∨ t.kind = "lambda_parameters") →
        ∃ required defaulted, (reachable t).filter isNamed = required ++ defaulted ∧
          (∀ c ∈ required, isRequired c = true) ∧ (∀ c ∈ defaulted, isDefaulted c = true) ∧
          defaulted.length = (parameterFacts s t).2.length := by
  have hbehind : ∀ c ∈ behindSlash (reachable t), c ∈ t.namedChildren ∧ isBarrier c = false :=
    fun c hc => mem_reachable (mem_of_mem_behindSlash hc)
  have hnames := forall₂_nameNodes s (fun c hc => (hbehind c hc).2)
    (fun c hc hdefaulted => (h c (hbehind c hc).1 hdefaulted).1)
  have hdefaults := forall₂_defaultNodes s
    (fun c hc hdefaulted => (h c (mem_reachable hc).1 hdefaulted).2)
  rw [parameterFacts_eq]
  refine ⟨hnames, hdefaults, requiredAfterDefault_iff t,
    fun parser source root hroot ht hkind => ?_⟩
  have hsplit := filter_isNamed (not_requiredBehindDefault_of_accepted? hroot ht hkind)
  refine ⟨_, _, hsplit, ?_, ?_, hdefaults.length_eq⟩
  · exact fun c hc => (List.mem_filter.mp hc).2
  · exact fun c hc => (List.mem_filter.mp hc).2

/-- A parameter list with two slashes, a comment and a starred parameter. -/
def slashedText : String := "(a, /, b: t, c=1, /, d=2,\n #\n *e: t, f=3)"

/-- The tree of `slashedText`, without its punctuation. -/
def slashedTree : Tree :=
  .node "parameters" true none 0 42 [
    .node "identifier" true none 1 2 [],
    .node "positional_separator" true none 4 5 [],
    .node "typed_parameter" true none 7 11 [
      .node "identifier" true none 7 8 [],
      .node "type" true (some "type") 10 11 []],
    .node "default_parameter" true none 13 16 [
      .node "identifier" true (some "name") 13 14 [],
      .node "integer" true (some "value") 15 16 []],
    .node "positional_separator" true none 18 19 [],
    .node "default_parameter" true none 21 24 [
      .node "identifier" true (some "name") 21 22 [],
      .node "integer" true (some "value") 23 24 []],
    .node "comment" true none 27 28 [],
    .node "typed_parameter" true none 30 35 [
      .node "list_splat_pattern" true none 30 32 [.node "identifier" true none 31 32 []],
      .node "type" true (some "type") 34 35 []],
    .node "default_parameter" true none 37 40 [
      .node "identifier" true (some "name") 37 38 [],
      .node "integer" true (some "value") 39 40 []]]

/-- Of the four parameters before the star, one stands behind the last slash, and two have a
default; no required one follows those. -/
theorem parameterFacts_sections_slashed :
    HasFields slashedTree ∧
      (parameterFacts (Source.ofText slashedText) slashedTree).1.length = 1 ∧
      (parameterFacts (Source.ofText slashedText) slashedTree).2.length = 2 ∧
      ¬ RequiredBehindDefault (reachable slashedTree) := by
  have hfields : HasFields slashedTree := by decide
  obtain ⟨hnames, hdefaults, hrequired, -⟩ :=
    parameterFacts_sections (Source.ofText slashedText) hfields
  refine ⟨hfields, ?_, ?_, ?_⟩
  · rw [← hnames.length_eq]
    decide
  · rw [← hdefaults.length_eq]
    decide
  · exact hrequired.not.mp (by decide)

end Lists

end PythonStyle
