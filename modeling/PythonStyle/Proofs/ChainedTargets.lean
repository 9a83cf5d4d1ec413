import Mathlib.Data.List.Forall2
import Mathlib.Logic.Relation
import PythonStyle.Facts.Functions
import PythonStyle.Proofs.TargetNames

/-!
# Chains of targets

A statement may assign one value to several targets, `a = b.c = d[0] = value`.  Its tree leans to
the right: behind the first target stands a further assignment, which has the other targets.  The
chain goes on as long as these assignments have no type.  This module says what becomes of each
target of a chain of any length.

Main definitions:

- `IdentifierPath`: a node is an identifier, or attributes of any number over one.
- `Chain`: a chain of targets and the value behind it.
- `ChainLoop.step?` and `ChainLoop.Ends`: the chain read in rounds, one target in each.
- `Resolved`: what becomes of a target.

Main results:

- Theorem `resolveTarget_eq_ok_iff`: the targets that are judged.
- Theorem `resolved_resolveTarget`: what becomes of any target, on its own.
- Theorem `ChainLoop.ends_chainTargets`: reading a chain ends, whatever the tree.
- Theorem `assignments_of_chain`: what becomes of a chain in the body of a function.
-/

namespace PythonStyle

/-! ## Attributes over an identifier -/

/-- Whether a node is an identifier, or an attribute of such a node; with the identifiers that it
is made of, the outermost attribute last. -/
inductive IdentifierPath : Tree → List Tree → Prop where
  | identifier {t : Tree} (hkind : t.kind = "identifier") : IdentifierPath t [t]
  | member {t object name : Tree} {path : List Tree} (hkind : t.kind = "attribute")
      (hobject : t.child? "object" = some object) (hname : t.child? "attribute" = some name)
      (hpath : IdentifierPath object path) : IdentifierPath t (path ++ [name])

namespace IdentifierPath

variable {t object name : Tree} {path : List Tree}

theorem ne_nil (h : IdentifierPath t path) : path ≠ [] := by
  cases h <;> simp

/-- The identifiers of an identifier. -/
theorem eq_singleton (h : IdentifierPath t path) (hkind : t.kind = "identifier") : path = [t] := by
  cases h with
  | identifier => rfl
  | member hattribute => simp [hattribute] at hkind

/-- The identifiers of an attribute are those of its object and its own. -/
theorem exists_eq_append (h : IdentifierPath t path) (hkind : t.kind = "attribute") :
    ∃ object name before, attributeParts? t = some (object, name) ∧
      IdentifierPath object before ∧ path = before ++ [name] := by
  cases h with
  | identifier hidentifier => simp [hidentifier] at hkind
  | member _ hobject hname hpath =>
      exact ⟨_, _, _, attributeParts?_eq_some_iff.mpr ⟨hobject, hname⟩, hpath, rfl⟩

/-- A node has no more than one path of identifiers. -/
theorem unique {other : List Tree} (h : IdentifierPath t path) (hother : IdentifierPath t other) :
    path = other := by
  induction h generalizing other with
  | identifier hkind => exact (hother.eq_singleton hkind).symm
  | member hkind hobject hname _ ih =>
      obtain ⟨o, n, before, hparts, hbefore, rfl⟩ := hother.exists_eq_append hkind
      obtain ⟨ho, hn⟩ := attributeParts?_eq_some_iff.mp hparts
      obtain rfl : _ = o := Option.some.inj (hobject.symm.trans ho)
      obtain rfl : _ = n := Option.some.inj (hname.symm.trans hn)
      rw [ih hbefore]

theorem of_attributeParts? (hkind : t.kind = "attribute")
    (hparts : attributeParts? t = some (object, name)) (h : IdentifierPath object path) :
    IdentifierPath t (path ++ [name]) :=
  have hfields := attributeParts?_eq_some_iff.mp hparts
  .member hkind hfields.1 hfields.2 h

end IdentifierPath

/-! ## One target -/

/-- What becomes of a target.  It is judged exactly if it is made of up to three identifiers; its
name is then these joined by points, and tells the target unless an identifier has a point of its
own.  Of any other target the kind and the line are kept. -/
structure Resolved (s : Source) (t : Tree) (entry : Except UnsupportedTarget Target) : Prop where
  ok_iff : (∃ target, entry = .ok target) ↔
    ∃ path, IdentifierPath t path ∧ path.length ≤ 3
  dotted : ∀ target path, entry = .ok target → IdentifierPath t path →
    target.parts = path.map s.textOf ∧ target.dotted = ".".intercalate (path.map s.textOf)
  readable : ∀ target path, entry = .ok target → IdentifierPath t path →
    (∀ name ∈ path, '.' ∉ (s.textOf name).toList) → Target.ofName? target.dotted = some target
  error : (¬ ∃ path, IdentifierPath t path ∧ path.length ≤ 3) →
    entry = .error ⟨t.kind, s.lineOf t⟩

variable {s : Source} {t : Tree}

/-- A target that is judged has its identifiers for parts. -/
theorem exists_path_of_resolveTarget {target : Target} (h : resolveTarget s t = .ok target) :
    ∃ path, IdentifierPath t path ∧ target.parts = path.map s.textOf := by
  rcases resolveTarget_eq_ok h with ⟨hkind, rfl⟩ | ⟨hkind, object, name, hparts, hobject⟩
  · exact ⟨[t], .identifier hkind, rfl⟩
  · rcases hobject with ⟨hobject, rfl⟩ | ⟨hobject, base, mid, hbelow, hbase, rfl⟩
    · exact ⟨_, .of_attributeParts? hkind hparts (.identifier hobject), rfl⟩
    · have hpath := IdentifierPath.of_attributeParts? hobject hbelow (.identifier hbase)
      exact ⟨_, .of_attributeParts? hkind hparts hpath, rfl⟩

/-- An identifier, and attributes of one or two levels over an identifier, are judged. -/
theorem exists_ok_of_path {path : List Tree} (h : IdentifierPath t path)
    (hlength : path.length ≤ 3) : ∃ target, resolveTarget s t = .ok target := by
  cases h with
  | identifier hkind => exact ⟨_, by rw [resolveTarget, if_pos hkind]⟩
  | member hkind hobject hname hpath =>
      have hparts := attributeParts?_eq_some_iff.mpr ⟨hobject, hname⟩
      cases hpath with
      | identifier hkind' => exact ⟨_, by simp only [resolveTarget, hkind, hparts, hkind']; rfl⟩
      | member hkind' hobject' hname' hpath' =>
          have hparts' := attributeParts?_eq_some_iff.mpr ⟨hobject', hname'⟩
          cases hpath' with
          | identifier hbase =>
              exact ⟨_, by simp only [resolveTarget, hkind, hparts, hkind', hparts', hbase]; rfl⟩
          | member _ _ _ hpath'' =>
              have hpositive := List.length_pos_iff.mpr hpath''.ne_nil
              simp only [List.length_append, List.length_singleton] at hlength
              omega

/-- A target that is not judged is kept with its kind and its line. -/
theorem resolveTarget_eq_error {unsupported : UnsupportedTarget}
    (h : resolveTarget s t = .error unsupported) : unsupported = ⟨t.kind, s.lineOf t⟩ := by
  simp only [resolveTarget] at h
  split at h
  · cases h
  · split at h
    · split at h
      · exact (Except.error.inj h).symm
      · next object name _ =>
          split at h
          · cases h
          · split at h
            · split at h
              · exact (Except.error.inj h).symm
              · next base mid _ =>
                  split at h
                  · cases h
                  · exact (Except.error.inj h).symm
            · exact (Except.error.inj h).symm
    · exact (Except.error.inj h).symm

/-- The targets that are judged are those made of up to three identifiers. -/
theorem resolveTarget_eq_ok_iff {target : Target} :
    resolveTarget s t = .ok target ↔ ∃ path, IdentifierPath t path ∧
      path.length ≤ 3 ∧ target.parts = path.map s.textOf := by
  constructor
  · intro h
    obtain ⟨path, hpath, hparts⟩ := exists_path_of_resolveTarget h
    refine ⟨path, hpath, ?_, hparts⟩
    have hlength := target.length_parts_le
    rwa [hparts, List.length_map] at hlength
  · rintro ⟨path, hpath, hlength, hparts⟩
    obtain ⟨other, hother⟩ := exists_ok_of_path (s := s) hpath hlength
    obtain ⟨path', hpath', hparts'⟩ := exists_path_of_resolveTarget hother
    obtain rfl := hpath.unique hpath'
    rw [hother, Target.parts_injective (hparts.trans hparts'.symm)]

/-- Each target becomes what it is on its own. -/
theorem resolved_resolveTarget (s : Source) (t : Tree) : Resolved s t (resolveTarget s t) where
  ok_iff := by
    constructor
    · rintro ⟨target, h⟩
      obtain ⟨path, hpath, hlength, -⟩ := resolveTarget_eq_ok_iff.mp h
      exact ⟨path, hpath, hlength⟩
    · rintro ⟨path, hpath, hlength⟩
      exact exists_ok_of_path hpath hlength
  dotted := by
    intro target path h hpath
    obtain ⟨path', hpath', -, hparts⟩ := resolveTarget_eq_ok_iff.mp h
    obtain rfl := hpath.unique hpath'
    exact ⟨hparts, by rw [Target.dotted_eq_intercalate, hparts]⟩
  readable := by
    intro target path h hpath hpoints
    obtain ⟨path', hpath', -, hparts⟩ := resolveTarget_eq_ok_iff.mp h
    obtain rfl := hpath.unique hpath'
    refine Target.ofName?_dotted fun part hpart => ?_
    rw [hparts] at hpart
    obtain ⟨name, hname, rfl⟩ := List.mem_map.mp hpart
    exact hpoints name hname
  error := by
    intro hnone
    cases h : resolveTarget s t with
    | ok target =>
        obtain ⟨path, hpath, hlength, -⟩ := resolveTarget_eq_ok_iff.mp h
        exact absurd ⟨path, hpath, hlength⟩ hnone
    | error unsupported => rw [resolveTarget_eq_error h]

/-! ## Chains -/

/-- A chain of targets, `a = b = value`: each assignment but the last has a further one for its
right-hand side, and none of them has a type.  The value is the first right-hand side that is no
such assignment. -/
inductive Chain : Tree → List Tree → Tree → Prop where
  | last {t left value : Tree} (hplain : isPlainAssignment t = true)
      (hleft : t.child? "left" = some left) (hright : t.child? "right" = some value)
      (hvalue : isPlainAssignment value = false) : Chain t [left] value
  | more {t left right value : Tree} {targets : List Tree} (hplain : isPlainAssignment t = true)
      (hleft : t.child? "left" = some left) (hright : t.child? "right" = some right)
      (hrest : Chain right targets value) : Chain t (left :: targets) value

namespace Chain

variable {value : Tree} {targets : List Tree}

theorem isPlainAssignment (h : Chain t targets value) :
    PythonStyle.isPlainAssignment t = true := by
  cases h with
  | last hplain => exact hplain
  | more hplain => exact hplain

/-- The targets that are found in a chain are its targets, from left to right. -/
theorem chainTargets_eq (h : Chain t targets value) : chainTargets t = targets := by
  induction h with
  | last hplain hleft hright hvalue =>
      rw [chainTargets, if_pos hplain, hleft]
      split
      · next right h =>
          obtain rfl := Option.some.inj (hright.symm.trans h)
          rw [chainTargets, if_neg (by simp [hvalue])]
          rfl
      · next h => simp [hright] at h
  | more hplain hleft hright _ ih =>
      rw [chainTargets, if_pos hplain, hleft]
      split
      · next right h =>
          obtain rfl := Option.some.inj (hright.symm.trans h)
          rw [ih]
          rfl
      · next h => simp [hright] at h

end Chain

/-! ## The loop over a chain -/

/-- The targets found so far, and the node to look at next. -/
structure ChainLoop where
  found : List Tree
  next : Option Tree

namespace ChainLoop

/-- A round of the loop takes the target of an assignment and goes on with its right-hand side.
Anything else ends the loop. -/
def step? (l : ChainLoop) : Option ChainLoop :=
  match l.next with
  | some t =>
    if isPlainAssignment t then some ⟨l.found ++ (t.child? "left").toList, t.child? "right"⟩
    else none
  | none => none

/-- Whether the loop comes from one state to another and ends there. -/
def Ends (start last : ChainLoop) : Prop :=
  Relation.ReflTransGen (fun a b => a.step? = some b) start last ∧ last.step? = none

theorem ends_self {l : ChainLoop} (h : l.step? = none) : Ends l l := ⟨.refl, h⟩

theorem Ends.of_step {a b last : ChainLoop} (hstep : a.step? = some b) (h : Ends b last) :
    Ends a last :=
  ⟨.head hstep h.1, h.2⟩

/-- The loop ends on every tree, and has then found the targets of the chain. -/
theorem ends_chainTargets (found : List Tree) (t : Tree) :
    ∃ last, Ends ⟨found, some t⟩ last ∧ last.found = found ++ chainTargets t := by
  fun_induction chainTargets t generalizing found with
  | case1 t hplain ih =>
      have hstep : step? ⟨found, some t⟩ =
          some ⟨found ++ (t.child? "left").toList, t.child? "right"⟩ := by
        simp [step?, hplain]
      split
      · next right hright =>
          obtain ⟨last, hends, hfound⟩ := ih right hright (found ++ (t.child? "left").toList)
          rw [hright] at hstep
          exact ⟨last, hends.of_step hstep, by rw [hfound, List.append_assoc]⟩
      · next hright =>
          rw [hright] at hstep
          exact ⟨_, (ends_self rfl).of_step hstep, by rw [List.append_nil]⟩
  | case2 t hplain =>
      exact ⟨_, ends_self (by simp [step?, hplain]), by rw [List.append_nil]⟩

end ChainLoop

/-! ## Statements -/

theorem statementAssignment?_of_chain (s : Source) {statement expression value : Tree}
    {targets : List Tree} (hkind : statement.kind = "expression_statement")
    (hexpression : statement.namedChildren.head? = some expression)
    (hchain : Chain expression targets value) :
    statementAssignment? s statement =
      some ⟨s.lineOf statement, targets.map (resolveTarget s)⟩ := by
  simp [statementAssignment?, hkind, hexpression, hchain.isPlainAssignment,
    hchain.chainTargets_eq]

/-- A statement directly in the body of a function that assigns to a chain of targets gives one
assignment, at its place among those of the body and on its own line.  The assignment has one entry
for each target, from left to right, and each is what becomes of that target on its own.  Names
without further points tell the targets apart, and the loop over a chain ends on every tree. -/
theorem assignments_of_chain (s : Source) {f body statement expression value : Tree}
    {before behind targets : List Tree} (hbody : f.child? "body" = some body)
    (hstatements : body.namedChildren = before ++ statement :: behind)
    (hkind : statement.kind = "expression_statement")
    (hexpression : statement.namedChildren.head? = some expression)
    (hchain : Chain expression targets value) :
    (∃ a : Assignment, (functionFacts s f).assignments =
        before.filterMap (statementAssignment? s) ++
          a :: behind.filterMap (statementAssignment? s) ∧
      a.line = s.lineOf statement ∧ List.Forall₂ (Resolved s) targets a.targets) ∧
      (∀ a b : Target, a.PointFree → b.PointFree → a.dotted = b.dotted → a = b) ∧
      ∀ t, ∃ last, ChainLoop.Ends ⟨[], some t⟩ last ∧ last.found = chainTargets t := by
  refine ⟨?_, fun a b => Target.eq_of_dotted_eq, fun t => ?_⟩
  · refine ⟨⟨s.lineOf statement, targets.map (resolveTarget s)⟩, ?_, rfl, ?_⟩
    · rw [assignments_functionFacts, hbody, Option.map_some, Option.getD_some, bodyAssignments,
        hstatements, List.filterMap_append, List.filterMap_cons,
        statementAssignment?_of_chain s hkind hexpression hchain]
    · rw [List.forall₂_map_right_iff, List.forall₂_same]
      exact fun t _ => resolved_resolveTarget s t
  · simpa using ChainLoop.ends_chainTargets [] t

/-- A function that assigns to four targets; the fifth assignment has a type. -/
def chainText : String := "def f():\n    pass\n    a = b.c.d = e.f.g.h = i[0] = j: k = 1\n"

/-- The tree of the assignment with a type. -/
def chainValue : Tree :=
  .node "assignment" true (some "right") 51 59 [
    .node "identifier" true (some "left") 51 52 [],
    .node "type" true (some "type") 54 55 [],
    .node "integer" true (some "right") 58 59 []]

/-- The tree of the assignments without a type. -/
def chainExpression : Tree :=
  .node "assignment" true none 22 59 [
    .node "identifier" true (some "left") 22 23 [],
    .node "assignment" true (some "right") 26 59 [
      .node "attribute" true (some "left") 26 31 [
        .node "attribute" true (some "object") 26 29 [
          .node "identifier" true (some "object") 26 27 [],
          .node "identifier" true (some "attribute") 28 29 []],
        .node "identifier" true (some "attribute") 30 31 []],
      .node "assignment" true (some "right") 34 59 [
        .node "attribute" true (some "left") 34 41 [
          .node "attribute" true (some "object") 34 39 [
            .node "attribute" true (some "object") 34 37 [
              .node "identifier" true (some "object") 34 35 [],
              .node "identifier" true (some "attribute") 36 37 []],
            .node "identifier" true (some "attribute") 38 39 []],
          .node "identifier" true (some "attribute") 40 41 []],
        .node "assignment" true (some "right") 44 59 [
          .node "subscript" true (some "left") 44 48 [
            .node "identifier" true (some "value") 44 45 [],
            .node "integer" true (some "subscript") 46 47 []],
          chainValue]]]]

/-- The tree of the statement. -/
def chainStatement : Tree := .node "expression_statement" true none 22 59 [chainExpression]

/-- The statement in front of it. -/
def chainPass : Tree := .node "pass_statement" true none 13 17 []

/-- The tree of the body. -/
def chainBody : Tree := .node "block" true (some "body") 13 59 [chainPass, chainStatement]

/-- The tree of the function, without its punctuation. -/
def chainFunction : Tree :=
  .node "function_definition" true none 0 59 [
    .node "identifier" true (some "name") 4 5 [],
    .node "parameters" true (some "parameters") 5 7 [],
    chainBody]

/-- The chain has four targets, and so has the assignment on line 3. -/
theorem assignments_of_chain_annotated :
    ∃ targets, Chain chainExpression targets chainValue ∧ targets.length = 4 ∧
      ∃ a, (functionFacts (Source.ofText chainText) chainFunction).assignments = [a] ∧
        a.line = 3 ∧ a.targets.length = 4 := by
  have hchain : ∃ targets, Chain chainExpression targets chainValue ∧ targets.length = 4 :=
    ⟨_, .more (by decide) rfl rfl <| .more (by decide) rfl rfl <| .more (by decide) rfl rfl <|
      .last (by decide) rfl rfl (by decide), rfl⟩
  obtain ⟨targets, hchain, hlength⟩ := hchain
  have hbody : chainFunction.child? "body" = some chainBody := rfl
  have hstatements : chainBody.namedChildren = [chainPass] ++ chainStatement :: [] := rfl
  obtain ⟨⟨a, hassignments, hline, hentries⟩, -⟩ :=
    assignments_of_chain (Source.ofText chainText) hbody hstatements rfl rfl hchain
  refine ⟨targets, hchain, hlength, a, hassignments, ?_, ?_⟩
  · rw [hline]
    decide +kernel
  · rw [← hentries.length_eq, hlength]

end PythonStyle
