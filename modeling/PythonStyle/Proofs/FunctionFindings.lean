import Mathlib.Data.List.Forall2
import PythonStyle.Proofs.Contributions

/-!
# What the rules for functions find

The rules for functions go through parameters, targets and defaults, some of which are reported,
some noted and some passed over.  What comes out is said here by lists of what there is to judge, so
that nothing in between can be lost, and no target that is not judged stands in the way of another.

Main definitions:

- `misnamedParams`, `misnamedTargets`, `unsupportedTargets` and `changingDefaults`: what there is to
  report or to note about a function.
- `foundAbout` and `notedAbout`: the diagnostics and the events that come of it.
- `FileFacts.withoutUnsupported`: the facts without the targets that are not judged.
- `Judged`: what the diagnostics and events about a file are.

Main results:

- Theorem `ofFunction_eq`: the diagnostics about a function.
- Theorem `events_checkFacts`: the rules add the events about each function in turn.
- Theorem `judged_facts`: defaults are reported and noted in step, and other targets noted.
- Theorem `checkFacts_complete`: what the rules add, with and without targets that are not judged.
-/

namespace PythonStyle

/-! ## What there is to judge -/

/-- The targets of an assignment whose names are judged. -/
def Assignment.supported (a : Assignment) : List Target :=
  a.targets.filterMap Except.toOption

/-- The targets of an assignment that are not judged. -/
def Assignment.unsupported (a : Assignment) : List UnsupportedTarget :=
  a.targets.filterMap fun
    | .ok _ => none
    | .error target => some target

/-- An assignment to those of its targets that are judged. -/
def Assignment.withoutUnsupported (a : Assignment) : Assignment :=
  { a with targets := a.supported.map .ok }

/-- A function in which no target is left that is not judged. -/
def Function.withoutUnsupported (f : Function) : Function :=
  { f with assignments := f.assignments.map Assignment.withoutUnsupported }

/-- Facts in which no target is left that is not judged. -/
def FileFacts.withoutUnsupported (facts : FileFacts) : FileFacts :=
  { facts with functions := facts.functions.map Function.withoutUnsupported }

namespace FunctionRules

/-- The parameters of a function whose names are not in snake case. -/
def misnamedParams (f : Function) : List Parameter :=
  f.params.filter fun p => !Naming.isSnakeCase p.name.toList

/-- The targets of a function whose names are not in snake case, with the lines of their
assignments. -/
def misnamedTargets (f : Function) : List (Nat × Target) :=
  f.assignments.flatMap fun a =>
    (a.supported.filter fun t => !Naming.isSnakeCaseTarget t.dotted.toList).map (a.line, ·)

/-- The targets of a function that are not judged. -/
def unsupportedTargets (f : Function) : List UnsupportedTarget :=
  f.assignments.flatMap Assignment.unsupported

/-- The defaults of a function that are no constants. -/
def changingDefaults (f : Function) : List DefaultValue :=
  f.defaults.filter fun v => !v.constant

/-- The diagnostic of a parameter. -/
def reportParam (file : String) (p : Parameter) : Diagnostic :=
  .of file p.line .argumentName (some p.name)

/-- The diagnostic of a target on a line. -/
def reportTarget (file : String) (t : Nat × Target) : Diagnostic :=
  .of file t.1 .variableName (some t.2.dotted)

/-- The diagnostic of a default. -/
def reportDefault (file : String) (v : DefaultValue) : Diagnostic :=
  .of file v.line .mutableDefault none

/-- The diagnostics about a function: first its parameters, then its targets, then its defaults. -/
def foundAbout (file : String) (f : Function) : List Diagnostic :=
  (misnamedParams f).map (reportParam file) ++ (misnamedTargets f).map (reportTarget file) ++
    (changingDefaults f).map (reportDefault file)

/-- The events about a function: first its targets, then its defaults. -/
def notedAbout (file : String) (f : Function) : List Event :=
  (unsupportedTargets f).map (.targetSkipped file) ++
    (changingDefaults f).map (.defaultNotConstant file)

/-! ## Diagnostics -/

/-- What is taken from a list one by one is what is left of it. -/
theorem flatMap_ite_eq_map_filter {α β : Type} (p : α → Bool) (g : α → β) (xs : List α) :
    (xs.flatMap fun x => if p x then [] else [g x]) = (xs.filter fun x => !p x).map g := by
  induction xs with
  | nil => rfl
  | cons x xs ih =>
      rw [List.flatMap_cons, ih]
      by_cases hx : p x = true
      · simp [hx]
      · simp [hx]

theorem ofAssignment_eq (file : String) (a : Assignment) :
    ofAssignment file a =
      (a.supported.filter fun t => !Naming.isSnakeCaseTarget t.dotted.toList).map
        fun t => reportTarget file (a.line, t) := by
  unfold ofAssignment Assignment.supported
  induction a.targets with
  | nil => rfl
  | cons target more ih =>
      rw [List.flatMap_cons, ih]
      cases target with
      | error unsupported => rfl
      | ok t =>
          by_cases ht : Naming.isSnakeCaseTarget t.dotted.toList = true
          · simp [ofTarget, Except.toOption, ht]
          · simp [ofTarget, Except.toOption, ht, reportTarget]

theorem ofFunction_eq (file : String) : ofFunction file = foundAbout file := by
  funext f
  have hparams : f.params.flatMap (ofParameter file) =
      (misnamedParams f).map (reportParam file) := flatMap_ite_eq_map_filter _ _ _
  have hdefaults : f.defaults.flatMap (ofDefault file) =
      (changingDefaults f).map (reportDefault file) := flatMap_ite_eq_map_filter _ _ _
  have htargets : f.assignments.flatMap (ofAssignment file) =
      (misnamedTargets f).map (reportTarget file) := by
    rw [misnamedTargets, List.map_flatMap]
    apply congrArg (f.assignments.flatMap ·)
    funext a
    rw [ofAssignment_eq, List.map_map]
    rfl
  rw [ofFunction, hparams, htargets, hdefaults, foundAbout]

/-! ## Events -/

theorem events_checkParameter (file : String) (now : Findings) (p : Parameter) :
    (checkParameter file now p).events.toList = now.events.toList ++ [] := by
  unfold checkParameter
  split <;> simp

theorem events_checkAssignment (file : String) (now : Findings) (a : Assignment) :
    (checkAssignment file now a).events.toList =
      now.events.toList ++ a.unsupported.map (.targetSkipped file) := by
  unfold checkAssignment Assignment.unsupported
  induction a.targets generalizing now with
  | nil => simp
  | cons target more ih =>
      rw [List.foldl_cons, ih]
      cases target with
      | error unsupported => simp [checkTarget]
      | ok t =>
          simp only [checkTarget]
          split <;> simp

theorem events_checkDefault (file : String) (now : Findings) (v : DefaultValue) :
    (checkDefault file now v).events.toList =
      now.events.toList ++ if v.constant then [] else [.defaultNotConstant file v] := by
  unfold checkDefault
  split <;> simp

/-- The rules add the events about a function. -/
theorem events_checkFunction (file : String) (now : Findings) (f : Function) :
    (checkFunction file now f).events.toList = now.events.toList ++ notedAbout file f := by
  unfold checkFunction notedAbout
  rw [Findings.events_foldl (events_checkDefault file),
    Findings.events_foldl (events_checkAssignment file),
    Findings.events_foldl (events_checkParameter file), flatMap_ite_eq_map_filter,
    unsupportedTargets, List.map_flatMap]
  simp [changingDefaults]

/-- The rules for functions add the events about each function in turn. -/
theorem events_checkFacts (now : Findings) (facts : FileFacts) :
    (checkFacts now facts).events.toList =
      now.events.toList ++ facts.functions.flatMap (notedAbout facts.path) :=
  Findings.events_foldl (events_checkFunction facts.path) facts.functions now

/-! ## Diagnostics and events in step -/

/-- Whether a diagnostic and an event speak of the same default. -/
def SameDefault (file : String) (d : Diagnostic) (e : Event) : Prop :=
  ∃ v, d = reportDefault file v ∧ e = .defaultNotConstant file v

/-- What the diagnostics and events about a file are. -/
structure Judged (facts : FileFacts) (found : List Diagnostic) (noted : List Event) : Prop where
  /-- Function by function, parameters, targets and defaults are reported. -/
  found_eq : found = facts.functions.flatMap (foundAbout facts.path)
  /-- Function by function, targets that are not judged and defaults are noted. -/
  noted_eq : noted = facts.functions.flatMap (notedAbout facts.path)
  /-- A default is noted when it is reported. -/
  inStep : List.Forall₂ (SameDefault facts.path)
    (found.filter fun d => d.code == .mutableDefault) (noted.filter fun e => e.level == .trace)
  /-- A target that is not judged is noted once. -/
  skipped : (noted.filter fun e => e.level == .debug) =
    (facts.functions.flatMap unsupportedTargets).map (.targetSkipped facts.path)

theorem filter_foundAbout (file : String) (f : Function) :
    ((foundAbout file f).filter fun d => d.code == .mutableDefault) =
      (changingDefaults f).map (reportDefault file) := by
  have hparam : (Code.argumentName == Code.mutableDefault) = false := rfl
  have htarget : (Code.variableName == Code.mutableDefault) = false := rfl
  simp [foundAbout, List.filter_map, reportParam, reportTarget, reportDefault, Diagnostic.of,
    Function.comp_def, hparam, htarget]

theorem filter_trace_notedAbout (file : String) (f : Function) :
    ((notedAbout file f).filter fun e => e.level == .trace) =
      (changingDefaults f).map (.defaultNotConstant file) := by
  simp [notedAbout, List.filter_map, Event.level, Function.comp_def]

theorem filter_debug_notedAbout (file : String) (f : Function) :
    ((notedAbout file f).filter fun e => e.level == .debug) =
      (unsupportedTargets f).map (.targetSkipped file) := by
  simp [notedAbout, List.filter_map, Event.level, Function.comp_def]

/-- What comes out about the functions of a file, defaults in step. -/
theorem judged_facts (facts : FileFacts) :
    Judged facts (facts.functions.flatMap (foundAbout facts.path))
      (facts.functions.flatMap (notedAbout facts.path)) where
  found_eq := rfl
  noted_eq := rfl
  inStep := by
    simp only [List.filter_flatMap, filter_foundAbout, filter_trace_notedAbout]
    rw [← List.map_flatMap, ← List.map_flatMap, List.forall₂_map_left_iff,
      List.forall₂_map_right_iff, List.forall₂_same]
    intro v _
    exact ⟨v, rfl, rfl⟩
  skipped := by
    simp only [List.filter_flatMap, filter_debug_notedAbout]
    rw [← List.map_flatMap]

/-! ## Without the targets that are not judged -/

@[simp]
theorem supported_withoutUnsupported (a : Assignment) :
    a.withoutUnsupported.supported = a.supported := by
  simp [Assignment.withoutUnsupported, Assignment.supported, List.filterMap_map,
    Function.comp_def, Except.toOption]

@[simp]
theorem unsupported_withoutUnsupported (a : Assignment) :
    a.withoutUnsupported.unsupported = [] := by
  simp [Assignment.withoutUnsupported, Assignment.unsupported]

/-- The diagnostics about a function do not hang on the targets that are not judged. -/
theorem foundAbout_withoutUnsupported (file : String) (f : Function) :
    foundAbout file f.withoutUnsupported = foundAbout file f := by
  have htargets : misnamedTargets f.withoutUnsupported = misnamedTargets f := by
    simp only [misnamedTargets, Function.withoutUnsupported, List.flatMap_map,
      supported_withoutUnsupported]
    rfl
  rw [foundAbout, htargets]
  rfl

/-- Without the targets that are not judged, the events about defaults remain. -/
theorem notedAbout_withoutUnsupported (file : String) (f : Function) :
    notedAbout file f.withoutUnsupported =
      (notedAbout file f).filter fun e => e.level == .trace := by
  have htargets : unsupportedTargets f.withoutUnsupported = [] := by
    simp [unsupportedTargets, Function.withoutUnsupported, List.flatMap_map]
  rw [filter_trace_notedAbout, notedAbout, htargets]
  rfl

/-- What the rules for functions add to findings: function by function, each parameter, each target
that is judged and each default is reported if it breaks its rule, and nothing else; defaults are
noted in step, and each target that is not judged is noted.  If all targets that are not judged are
taken away, the same diagnostics come out in the same order, and of the events those about
defaults. -/
theorem checkFacts_complete (now : Findings) (facts : FileFacts) :
    ∃ found noted, Judged facts found noted ∧
      (checkFacts now facts).diagnostics.toList = now.diagnostics.toList ++ found ∧
      (checkFacts now facts).events.toList = now.events.toList ++ noted ∧
      (checkFacts now facts.withoutUnsupported).diagnostics.toList =
        now.diagnostics.toList ++ found ∧
      (checkFacts now facts.withoutUnsupported).events.toList =
        now.events.toList ++ noted.filter fun e => e.level == .trace := by
  refine ⟨_, _, judged_facts facts, ?_, ?_, ?_, ?_⟩
  · rw [diagnostics_checkFacts, ofFunction_eq]
  · exact events_checkFacts now facts
  · rw [diagnostics_checkFacts]
    simp only [FileFacts.withoutUnsupported, List.flatMap_map, ofFunction_eq,
      foundAbout_withoutUnsupported]
  · rw [events_checkFacts]
    simp only [FileFacts.withoutUnsupported, List.flatMap_map, notedAbout_withoutUnsupported,
      List.filter_flatMap]

end FunctionRules
end PythonStyle
