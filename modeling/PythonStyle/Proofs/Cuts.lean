import Mathlib.Data.List.Basic
import PythonStyle.Text.Lines

/-!
# Searching behind any characters

A pattern may start with any characters but newlines.  A search for it with backtracking takes as
many of them as it can, and gives them back one by one as long as it finds nothing behind them.
What it finds first is therefore what is found from the last place of the first line.

Main definitions:

- `Text.cuts`: the ways to cut off any characters, in the order of the search.

Main results:

- Theorem `Text.mem_cuts`: what may be cut off.
- Theorem `Text.head?_flatMap_cuts`: what a search finds first behind any characters.
-/

namespace PythonStyle.Text

variable {c : Char} {text : List Char} {k : Nat}

/-! ## First lines -/

theorem firstLine_cons (hc : c ≠ '\n') (text : List Char) :
    firstLine (c :: text) = c :: firstLine text := by
  simp [firstLine, hc]

/-- Behind a place in the first line, the rest of that line follows. -/
theorem firstLine_drop (h : k ≤ (firstLine text).length) :
    firstLine (text.drop k) = (firstLine text).drop k := by
  induction text generalizing k with
  | nil => simp [firstLine]
  | cons c text ih =>
      cases k with
      | zero => rfl
      | succ k =>
          by_cases hc : c = '\n'
          · simp [firstLine, hc] at h
          · rw [firstLine_cons hc, List.length_cons] at h
            rw [firstLine_cons hc, List.drop_succ_cons, List.drop_succ_cons, ih (by omega)]

theorem take_firstLine (h : k ≤ (firstLine text).length) :
    (firstLine text).take k = text.take k := by
  obtain ⟨tail, htail⟩ := prefix_firstLine text
  have hcut : (firstLine text ++ tail).take k = (firstLine text).take k :=
    List.take_append_of_le_length h
  rw [← hcut, htail]

/-- The first line starts as the text does. -/
theorem firstLine_eq_append_iff {start rest : List Char} (hstart : '\n' ∉ start) :
    firstLine text = start ++ rest ↔ ∃ tail, text = start ++ tail ∧ rest = firstLine tail := by
  constructor
  · intro h
    obtain ⟨tail, htail⟩ := prefix_firstLine text
    rw [h, List.append_assoc] at htail
    refine ⟨rest ++ tail, htail.symm, ?_⟩
    rw [← htail, firstLine_append hstart] at h
    exact (List.append_cancel_left h).symm
  · rintro ⟨tail, rfl, rfl⟩
    exact firstLine_append hstart tail

/-- A character stands in the first line if no newline stands before it. -/
theorem mem_firstLine_iff (hc : c ≠ '\n') :
    c ∈ firstLine text ↔ ∃ start behind, text = start ++ c :: behind ∧ '\n' ∉ start := by
  constructor
  · intro h
    obtain ⟨tail, htail⟩ := prefix_firstLine text
    obtain ⟨start, rest, hline⟩ := List.append_of_mem h
    refine ⟨start, rest ++ tail, by rw [← htail, hline, List.append_assoc]; rfl, fun hstart => ?_⟩
    exact newline_not_mem_firstLine text (hline ▸ List.mem_append_left _ hstart)
  · rintro ⟨start, behind, rfl, hstart⟩
    rw [firstLine_append hstart, firstLine_cons hc]
    exact List.mem_append_right start List.mem_cons_self

/-! ## Any characters -/

/-- The ways to cut any characters but newlines off the front of a text, in the order in which a
search with backtracking comes upon them: as many as can be first. -/
def cuts : List Char → List (List Char × List Char)
  | [] => [([], [])]
  | c :: text =>
      (if c = '\n' then [] else (cuts text).map fun cut => (c :: cut.1, cut.2)) ++ [([], c :: text)]

/-- What is cut off has no newline. -/
theorem mem_cuts {front behind : List Char} :
    (front, behind) ∈ cuts text ↔ text = front ++ behind ∧ '\n' ∉ front := by
  induction text generalizing front with
  | nil => cases front <;> simp [cuts]
  | cons c text ih =>
      rw [cuts, List.mem_append, List.mem_singleton, Prod.mk.injEq]
      constructor
      · rintro (h | ⟨rfl, rfl⟩)
        · split at h
          · cases h
          · next hc =>
              obtain ⟨⟨start, tail⟩, hmem, heq⟩ := List.mem_map.mp h
              obtain ⟨rfl, rfl⟩ := Prod.mk.inj heq
              obtain ⟨rfl, hstart⟩ := ih.mp hmem
              exact ⟨rfl, by simp [hstart, Ne.symm hc]⟩
        · exact ⟨rfl, List.not_mem_nil⟩
      · rintro ⟨htext, hfront⟩
        cases front with
        | nil => exact .inr ⟨rfl, htext.symm⟩
        | cons d front =>
            obtain ⟨rfl, rfl⟩ := List.cons.inj htext
            rw [List.mem_cons, not_or] at hfront
            rw [if_neg (Ne.symm hfront.1)]
            exact .inl (List.mem_map.mpr ⟨(front, behind), ih.mpr ⟨rfl, hfront.2⟩, rfl⟩)

section Answers

variable {α : Type} {answers : List Char × List Char → List α} {x : α}

theorem flatMap_cuts_cons (hc : c ≠ '\n') (text : List Char) :
    (cuts (c :: text)).flatMap answers =
      ((cuts text).flatMap fun cut => answers (c :: cut.1, cut.2)) ++ answers ([], c :: text) := by
  rw [cuts, if_neg hc, List.flatMap_append, List.flatMap_map, List.flatMap_singleton]

theorem flatMap_cuts_newline (text : List Char) :
    (cuts ('\n' :: text)).flatMap answers = answers ([], '\n' :: text) := by
  rw [cuts, if_pos rfl, List.nil_append, List.flatMap_singleton]

/-- A search that goes on behind any characters has no answers if it has none from any place of the
first line. -/
theorem flatMap_cuts_eq_nil_iff :
    (cuts text).flatMap answers = [] ↔
      ∀ k ≤ (firstLine text).length, answers (text.take k, text.drop k) = [] := by
  induction text generalizing answers with
  | nil => simp [cuts, firstLine]
  | cons c text ih =>
      by_cases hc : c = '\n'
      · subst hc
        rw [flatMap_cuts_newline]
        simp [firstLine]
      · rw [flatMap_cuts_cons hc, List.append_eq_nil_iff, ih, firstLine_cons hc, List.length_cons]
        constructor
        · rintro ⟨hmore, hnone⟩ k hk
          cases k with
          | zero => exact hnone
          | succ k => exact hmore k (Nat.le_of_succ_le_succ hk)
        · intro h
          exact ⟨fun k hk => h (k + 1) (Nat.succ_le_succ hk), h 0 (Nat.zero_le _)⟩

/-- Its first answer is that from the last place of the first line from which it has any. -/
theorem head?_flatMap_cuts :
    ((cuts text).flatMap answers).head? = some x ↔
      ∃ k ≤ (firstLine text).length, (answers (text.take k, text.drop k)).head? = some x ∧
        ∀ other ≤ (firstLine text).length, k < other →
          answers (text.take other, text.drop other) = [] := by
  induction text generalizing answers with
  | nil => simp [cuts, firstLine]
  | cons c text ih =>
      by_cases hc : c = '\n'
      · subst hc
        rw [flatMap_cuts_newline]
        simp [firstLine]
      · rw [flatMap_cuts_cons hc, List.head?_append, Option.or_eq_some_iff, ih,
          List.head?_eq_none_iff, flatMap_cuts_eq_nil_iff, firstLine_cons hc, List.length_cons]
        constructor
        · rintro (⟨k, hk, hfirst, hnone⟩ | ⟨hnone, hfirst⟩)
          · refine ⟨k + 1, Nat.succ_le_succ hk, hfirst, fun other hother hlt => ?_⟩
            have hne : other ≠ 0 := Nat.ne_of_gt (Nat.zero_lt_of_lt hlt)
            obtain ⟨more, rfl⟩ := Nat.exists_eq_succ_of_ne_zero hne
            exact hnone more (Nat.le_of_succ_le_succ hother) (Nat.lt_of_succ_lt_succ hlt)
          · refine ⟨0, Nat.zero_le _, hfirst, fun other hother hlt => ?_⟩
            obtain ⟨more, rfl⟩ := Nat.exists_eq_succ_of_ne_zero (Nat.ne_of_gt hlt)
            exact hnone more (Nat.le_of_succ_le_succ hother)
        · rintro ⟨k, hk, hfirst, hnone⟩
          cases k with
          | zero =>
              exact .inr ⟨fun more hmore => hnone (more + 1) (Nat.succ_le_succ hmore)
                (Nat.succ_pos more), hfirst⟩
          | succ k =>
              refine .inl ⟨k, Nat.le_of_succ_le_succ hk, hfirst, fun other hother hlt => ?_⟩
              exact hnone (other + 1) (Nat.succ_le_succ hother) (Nat.succ_lt_succ hlt)

end Answers

end PythonStyle.Text
