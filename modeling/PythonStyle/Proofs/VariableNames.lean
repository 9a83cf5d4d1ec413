import Mathlib.Data.List.Basic
import PythonStyle.FunctionRules
import PythonStyle.Proofs.Matching
import PythonStyle.Proofs.TargetNames

/-!
# Names of variables

The name of a variable is judged as one text, points and all.  This module says that the verdict
can be read off its segments, the pieces between the points: the first may be any word of snake
case, each of the others one word, perhaps with an underscore in front.  For names with one point
or none this is the pattern that the rule started from, which knows of one attribute only.  The
names that assignments give rise to have at most two points, so that the limit on their number is
never what is wrong with them.

Main definitions:

- `Naming.isAttributeName` and `Naming.areSnakeSegments`: what is asked of the segments of a name.
- `Naming.originalVariable`: the pattern with at most one attribute.

Main results:

- Theorem `Naming.isSnakeCase_eq`: names of parameters are judged character by character.
- Theorem `Naming.areAttributes_rest_eq`: names of variables are judged segment by segment, for
  any limit on the number of attributes.
- Theorem `Naming.matches_originalVariable_iff`: what the original pattern says.
- Theorem `variableNames_by_segments`: the three patterns compared, and what this means for
  targets.
-/

namespace PythonStyle

namespace Naming

open Text Text.Shape

/-! ## One word -/

/-- Whatever the slots of a name in snake case take may stand in such a name. -/
theorem isSnake_of_takes {slot : Slot} {c : Char} (hslot : slot ∈ snakeCase)
    (h : slot.takes c = true) : isSnake c = true := by
  simp only [snakeCase, List.mem_cons, List.not_mem_nil, or_false] at hslot
  rcases hslot with rfl | rfl | rfl
  · exact h
  · exact Bool.or_eq_true_iff.mpr (.inr h)
  · exact Bool.or_eq_true_iff.mpr (.inl h)

/-- A name is in snake case if each of its characters may stand in such a name: the first slot
takes them all. -/
theorem isSnakeCase_eq (name : List Char) : isSnakeCase name = name.all isSnake := by
  rw [Bool.eq_iff_iff, List.all_eq_true, isSnakeCase, fits_iff_matches]
  constructor
  · intro h c hc
    obtain ⟨slot, hslot, htakes⟩ := h.takes hc
    exact isSnake_of_takes hslot htakes
  · intro h
    exact ⟨name, [], (List.append_nil name).symm, h, matches_nil _⟩

theorem matches_variableBase_iff {base : List Char} :
    Matches variableBase base ↔ base.all isSnake = true := by
  rw [variableBase, matches_many_iff, List.all_eq_true]

/-- Whether a segment behind a point is one word of small letters and digits, perhaps with an
underscore in front. -/
def isAttributeName : List Char → Bool
  | '_' :: word => word.all isSmallOrDigit
  | word => word.all isSmallOrDigit

theorem matches_attributeName_iff {attr : List Char} :
    Matches attributeName attr ↔ isAttributeName attr = true := by
  cases attr with
  | nil => exact iff_of_true (matches_nil _) rfl
  | cons c word =>
      rw [attributeName, matches_optional_cons_iff, matches_many_iff, matches_many_iff]
      by_cases hc : c = '_'
      · have hunderscore : isSmallOrDigit '_' = false := by decide
        simp [isAttributeName, isUnderscore, hc, hunderscore]
      · simp [isAttributeName, isUnderscore, hc]

/-- The names of attributes are in snake case. -/
theorem all_isSnake_of_isAttributeName {attr : List Char} (h : isAttributeName attr = true) :
    attr.all isSnake = true := by
  refine List.all_eq_true.mpr fun c hc => ?_
  obtain ⟨slot, hslot, htakes⟩ := (matches_attributeName_iff.mpr h).takes hc
  exact isSnake_of_takes (List.mem_cons_of_mem _ hslot) htakes

/-- No word of snake case has a point. -/
theorem point_not_mem {word : List Char} (h : word.all isSnake = true) : '.' ∉ word := by
  intro hmem
  have hpoint : isSnake '.' = true := List.all_eq_true.mp h '.' hmem
  revert hpoint
  decide

/-! ## Segments -/

/-- A text made of a base and of attributes, each behind a point. -/
def pointed (base : List Char) (attrs : List (List Char)) : List Char :=
  base ++ attrs.flatMap ('.' :: ·)

theorem pointed_eq_intercalate (base : List Char) (attrs : List (List Char)) :
    pointed base attrs = ['.'].intercalate (base :: attrs) := by
  induction attrs generalizing base with
  | nil => simp [pointed]
  | cons attr attrs ih =>
      rw [List.intercalate_cons_cons, ← ih, pointed, pointed, List.flatMap_cons]
      simp

/-- Cutting such a text at its points gives the base and the attributes back. -/
theorem splitOn_pointed {base : List Char} {attrs : List (List Char)} (hbase : '.' ∉ base)
    (hattrs : ∀ attr ∈ attrs, '.' ∉ attr) : (pointed base attrs).splitOn '.' = base :: attrs := by
  rw [pointed_eq_intercalate]
  refine List.splitOn_intercalate '.' ?_ (List.cons_ne_nil _ _)
  exact List.forall_mem_cons.mpr ⟨hbase, hattrs⟩

/-- Such a text has a point for each attribute. -/
theorem count_pointed {base : List Char} {attrs : List (List Char)} (hbase : '.' ∉ base)
    (hattrs : ∀ attr ∈ attrs, '.' ∉ attr) : (pointed base attrs).count '.' = attrs.length := by
  rw [pointed, List.count_append, List.count_eq_zero.mpr hbase, Nat.zero_add]
  clear hbase
  induction attrs with
  | nil => rfl
  | cons attr attrs ih =>
      obtain ⟨hattr, hattrs⟩ := List.forall_mem_cons.mp hattrs
      rw [List.flatMap_cons, List.cons_append, List.count_cons_self, List.count_append,
        List.count_eq_zero.mpr hattr, ih hattrs, List.length_cons, Nat.zero_add]

/-- Every text is made in this way of its segments. -/
theorem exists_splitOn_eq_cons (text : List Char) :
    ∃ base attrs, text.splitOn '.' = base :: attrs ∧ text = pointed base attrs := by
  obtain ⟨base, attrs, h⟩ := List.exists_cons_of_ne_nil (List.splitOn_ne_nil '.' text)
  refine ⟨base, attrs, h, ?_⟩
  rw [pointed_eq_intercalate, ← h, List.intercalate_splitOn]

/-- Behind a base, or a name of an attribute, stands nothing or a point. -/
theorem takes_head?_flatMap {shape : Shape} (hshape : ∀ slot ∈ shape, slot.takes '.' = false)
    (attrs : List (List Char)) :
    ∀ c ∈ (attrs.flatMap ('.' :: ·)).head?, ∀ slot ∈ shape, slot.takes c = false := by
  cases attrs with
  | nil => simp
  | cons attr attrs =>
      intro c hc
      obtain rfl : '.' = c := by simpa using hc
      exact hshape

/-- A text is read as attributes if it is made of names of attributes, each behind a point, and of
no more than are wanted. -/
theorem areAttributes_iff {most : Nat} {text : List Char} :
    areAttributes most text = true ↔ ∃ attrs : List (List Char), attrs.length ≤ most ∧
      (∀ attr ∈ attrs, Matches attributeName attr) ∧ text = attrs.flatMap ('.' :: ·) := by
  have hshape : ∀ slot ∈ attributeName, slot.takes '.' = false := by
    simp [attributeName, Slot.takes, isSmallOrDigit, isSmall, isDigit, isUnderscore]
  induction most generalizing text with
  | zero =>
      cases text with
      | nil => simp [areAttributes]
      | cons c text =>
          refine iff_of_false (by simp [areAttributes]) ?_
          rintro ⟨attrs, hlength, -, htext⟩
          rw [List.length_eq_zero_iff.mp (Nat.le_zero.mp hlength)] at htext
          cases htext
  | succ most ih =>
      cases text with
      | nil => exact iff_of_true (by simp [areAttributes]) ⟨[], by simp, by simp, rfl⟩
      | cons c text =>
          rw [areAttributes, Bool.and_eq_true, beq_iff_eq]
          constructor
          · rintro ⟨rfl, hmore⟩
            obtain ⟨attrs, hlength, hattrs, hrest⟩ := ih.mp hmore
            refine ⟨take attributeName text :: attrs, by simpa using hlength, ?_, ?_⟩
            · exact List.forall_mem_cons.mpr ⟨matches_take _ _, hattrs⟩
            · rw [List.flatMap_cons, ← hrest, List.cons_append, take_append_rest]
          · rintro ⟨attrs, hlength, hattrs, htext⟩
            cases attrs with
            | nil => cases htext
            | cons attr attrs =>
                obtain ⟨hattr, hattrs⟩ := List.forall_mem_cons.mp hattrs
                rw [List.flatMap_cons, List.cons_append] at htext
                obtain ⟨rfl, rfl⟩ := List.cons.inj htext
                refine ⟨rfl, ih.mpr ⟨attrs, by simpa using hlength, hattrs, ?_⟩⟩
                exact rest_append_of_matches hattr (takes_head?_flatMap hshape attrs)

/-- Whether segments are a word of snake case and names of attributes behind it. -/
def areSnakeSegments : List (List Char) → Bool
  | [] => false
  | base :: attrs => base.all isSnake && attrs.all isAttributeName

theorem areSnakeSegments_cons_iff {base : List Char} {attrs : List (List Char)} :
    areSnakeSegments (base :: attrs) = true ↔
      base.all isSnake = true ∧ ∀ attr ∈ attrs, isAttributeName attr = true := by
  rw [areSnakeSegments, Bool.and_eq_true, List.all_eq_true (l := attrs)]

/-- The segments of a right name have no points, so they are what the name is cut into. -/
theorem splitOn_and_count_pointed {base : List Char} {attrs : List (List Char)}
    (h : areSnakeSegments (base :: attrs) = true) :
    (pointed base attrs).splitOn '.' = base :: attrs ∧
      (pointed base attrs).count '.' = attrs.length := by
  obtain ⟨hbase, hattrs⟩ := areSnakeSegments_cons_iff.mp h
  have hbase := point_not_mem hbase
  have hattrs : ∀ attr ∈ attrs, '.' ∉ attr :=
    fun attr hattr => point_not_mem (all_isSnake_of_isAttributeName (hattrs attr hattr))
  exact ⟨splitOn_pointed hbase hattrs, count_pointed hbase hattrs⟩

/-- Under any limit on the number of attributes, a name passes exactly if it is within the limit
and its segments are right. -/
theorem areAttributes_rest_eq (most : Nat) (name : List Char) :
    areAttributes most (rest variableBase name) =
      (decide (name.count '.' ≤ most) && areSnakeSegments (name.splitOn '.')) := by
  have hshape : ∀ slot ∈ variableBase, slot.takes '.' = false := by
    simp [variableBase, Slot.takes, isSnake, isSmallOrDigit, isSmall, isDigit, isUnderscore]
  rw [Bool.eq_iff_iff, areAttributes_iff, Bool.and_eq_true, decide_eq_true_iff]
  constructor
  · rintro ⟨attrs, hlength, hattrs, hrest⟩
    have hname : name = pointed (take variableBase name) attrs := by
      rw [pointed, ← hrest, take_append_rest]
    have hsegments : areSnakeSegments (take variableBase name :: attrs) = true := by
      refine areSnakeSegments_cons_iff.mpr ⟨matches_variableBase_iff.mp (matches_take _ _), ?_⟩
      exact fun attr hattr => matches_attributeName_iff.mp (hattrs attr hattr)
    obtain ⟨hsplit, hcount⟩ := splitOn_and_count_pointed hsegments
    rw [hname, hsplit, hcount]
    exact ⟨hlength, hsegments⟩
  · rintro ⟨hcount, hsegments⟩
    obtain ⟨base, attrs, hsplit, rfl⟩ := exists_splitOn_eq_cons name
    rw [hsplit] at hsegments
    rw [(splitOn_and_count_pointed hsegments).2] at hcount
    obtain ⟨hbase, hattrs⟩ := areSnakeSegments_cons_iff.mp hsegments
    refine ⟨attrs, hcount, fun attr hattr => matches_attributeName_iff.mpr (hattrs attr hattr), ?_⟩
    exact rest_append_of_matches (matches_variableBase_iff.mpr hbase)
      (takes_head?_flatMap hshape attrs)

theorem isSnakeCaseTarget_iff {name : List Char} :
    isSnakeCaseTarget name = true ↔
      name.count '.' ≤ maxAttributes ∧ areSnakeSegments (name.splitOn '.') = true := by
  rw [isSnakeCaseTarget, areAttributes_rest_eq, Bool.and_eq_true, decide_eq_true_iff]

/-! ## At most one attribute -/

/-- The pattern that knows of one attribute, whose point may be missing. -/
def originalVariable : Shape :=
  [.many isSnake, .optional (· == '.'), .optional isUnderscore, .many isSmallOrDigit]

/-- It says that a name is a word of snake case, or such a word and the name of an attribute. -/
theorem matches_originalVariable_iff {name : List Char} :
    Matches originalVariable name ↔ name.all isSnake = true ∨
      ∃ base attr, name = pointed base [attr] ∧ areSnakeSegments [base, attr] = true := by
  constructor
  · rintro ⟨base, rest, rfl, hbase, point, attr, rfl, ⟨hlength, hpoint⟩, hattr⟩
    have hbase : base.all isSnake = true := List.all_eq_true.mpr hbase
    have hattr : isAttributeName attr = true := matches_attributeName_iff.mp hattr
    match point, hlength, hpoint with
    | [], _, _ =>
        left
        rw [List.nil_append, List.all_append, hbase, all_isSnake_of_isAttributeName hattr]
        rfl
    | [c], _, hpoint =>
        right
        obtain rfl : c = '.' := by simpa using hpoint
        exact ⟨base, attr, by simp [pointed], by simp [areSnakeSegments, hbase, hattr]⟩
    | _ :: _ :: _, hlength, _ => simp at hlength
  · rintro (hname | ⟨base, attr, rfl, hsegments⟩)
    · exact ⟨name, [], (List.append_nil name).symm, List.all_eq_true.mp hname, matches_nil _⟩
    · obtain ⟨hbase, hattr⟩ := areSnakeSegments_cons_iff.mp hsegments
      have hattr : Matches attributeName attr :=
        matches_attributeName_iff.mpr (hattr attr List.mem_cons_self)
      refine ⟨base, '.' :: attr, by simp [pointed], List.all_eq_true.mp hbase, ['.'], attr, rfl,
        ⟨Nat.le_refl 1, by simp⟩, hattr⟩

/-- With one point or none, a name passes exactly if it has the original pattern. -/
theorem isSnakeCaseTarget_iff_originalVariable {name : List Char} (h : name.count '.' ≤ 1) :
    isSnakeCaseTarget name = true ↔ Matches originalVariable name := by
  have hlimit : name.count '.' ≤ maxAttributes := Nat.le_succ_of_le h
  rw [isSnakeCaseTarget_iff, matches_originalVariable_iff, and_iff_right hlimit]
  constructor
  · intro hsegments
    obtain ⟨base, attrs, hsplit, rfl⟩ := exists_splitOn_eq_cons name
    rw [hsplit] at hsegments
    rw [(splitOn_and_count_pointed hsegments).2] at h
    match attrs, h with
    | [], _ =>
        left
        simpa [areSnakeSegments, pointed] using hsegments
    | [attr], _ => exact .inr ⟨base, attr, rfl, hsegments⟩
    | _ :: _ :: _, h => simp at h
  · rintro (hname | ⟨base, attr, rfl, hsegments⟩)
    · rw [List.splitOn_eq_singleton (point_not_mem hname)]
      simpa [areSnakeSegments] using hname
    · rw [(splitOn_and_count_pointed hsegments).1]
      exact hsegments

/-! ## Targets -/

/-- The name of a target is judged part by part, and no limit above the number of attributes that
a target may have makes a difference. -/
theorem areAttributes_rest_dotted {t : Target} (h : t.PointFree) {most : Nat}
    (hmost : maxAttributes ≤ most) :
    areAttributes most (rest variableBase t.dotted.toList) =
      areSnakeSegments (t.parts.map String.toList) := by
  have hpoints : t.dotted.toList.count '.' ≤ maxAttributes := by
    obtain ⟨base, attrs, hsplit, hname⟩ := exists_splitOn_eq_cons t.dotted.toList
    have hsegments : base :: attrs = t.parts.map String.toList := by
      rw [← hsplit, Target.splitOn_dotted h]
    have hfree : ∀ segment ∈ base :: attrs, '.' ∉ segment := by
      rw [hsegments]
      exact List.forall_mem_map.mpr h
    obtain ⟨hbase, hattrs⟩ := List.forall_mem_cons.mp hfree
    have hlength : attrs.length + 1 = t.parts.length := by
      rw [← List.length_cons, hsegments, List.length_map]
    have hparts := t.length_parts_le
    rw [hname, count_pointed hbase hattrs, maxAttributes]
    omega
  rw [areAttributes_rest_eq, Target.splitOn_dotted h,
    decide_eq_true (Nat.le_trans hpoints hmost), Bool.true_and]

end Naming

open Naming

/-- A target is reported if the variable is no word of snake case, or one of its attributes is no
name of an attribute. -/
theorem FunctionRules.checkTarget_of_pointFree {t : Target} (h : t.PointFree) (file : String)
    (line : Nat) (now : Findings) :
    checkTarget file line now (.ok t) =
      if areSnakeSegments (t.parts.map String.toList) then now
      else now.report (.of file line .variableName (some t.dotted)) := by
  rw [checkTarget, isSnakeCaseTarget, areAttributes_rest_dotted h (Nat.le_refl _)]

/-- A name is in snake case exactly if all its characters are; a name of a variable with at most
one point is judged by the original pattern; any name is judged by its segments, and by their
number.  So a target whose parts have no points is judged part by part, a variable without
attributes as a parameter is, and it makes no difference to any of them that the number of
attributes is limited. -/
theorem variableNames_by_segments :
    (∀ name, isSnakeCase name = true ↔ ∀ c ∈ name, isSnake c = true) ∧
      (∀ name, name.count '.' ≤ 1 →
        (isSnakeCaseTarget name = true ↔ Text.Shape.Matches originalVariable name)) ∧
      (∀ name, isSnakeCaseTarget name = true ↔
        name.count '.' ≤ 2 ∧ areSnakeSegments (name.splitOn '.') = true) ∧
      ∀ t : Target, t.PointFree →
        (∀ file line now, FunctionRules.checkTarget file line now (.ok t) =
          if areSnakeSegments (t.parts.map String.toList) then now
          else now.report (.of file line .variableName (some t.dotted))) ∧
        (∀ name, t = .simple name →
          isSnakeCaseTarget t.dotted.toList = isSnakeCase name.toList) ∧
        ∀ most, maxAttributes ≤ most →
          areAttributes most (Text.Shape.rest variableBase t.dotted.toList) =
            isSnakeCaseTarget t.dotted.toList := by
  refine ⟨fun name => ?_, fun name => isSnakeCaseTarget_iff_originalVariable,
    fun name => isSnakeCaseTarget_iff, fun t ht => ⟨?_, ?_, fun most hmost => ?_⟩⟩
  · rw [isSnakeCase_eq, List.all_eq_true]
  · exact FunctionRules.checkTarget_of_pointFree ht
  · rintro name rfl
    rw [isSnakeCaseTarget, areAttributes_rest_dotted ht (Nat.le_refl _), isSnakeCase_eq]
    simp [areSnakeSegments, Target.parts]
  · rw [isSnakeCaseTarget, areAttributes_rest_dotted ht hmost,
      areAttributes_rest_dotted ht (Nat.le_refl _)]

/-- Of two attributes the second has an inner underscore, and that is what is reported. -/
theorem variableNames_by_segments_nested :
    (Target.nested "self" "_config" "my_port").PointFree ∧
      ∀ now, FunctionRules.checkTarget "a.py" 1 now
          (.ok (.nested "self" "_config" "my_port")) =
        now.report (.of "a.py" 1 .variableName (some "self._config.my_port")) := by
  have hfree : (Target.nested "self" "_config" "my_port").PointFree := by
    unfold Target.PointFree
    decide
  obtain ⟨-, -, -, htargets⟩ := variableNames_by_segments
  have hsegments : areSnakeSegments
      ((Target.nested "self" "_config" "my_port").parts.map String.toList) = false := by decide
  refine ⟨hfree, fun now => ?_⟩
  rw [(htargets _ hfree).1 "a.py" 1 now, hsegments]
  rfl

end PythonStyle
