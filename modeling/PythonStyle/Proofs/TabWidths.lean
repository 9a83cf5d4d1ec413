import Mathlib.Data.List.Basic
import Mathlib.Data.List.TakeWhile
import PythonStyle.Indentation

/-!
# Tabs that mean the same at every width

Whether the tabs of a source are ambiguous is decided with one stack, which holds both
measures of the open blocks but is cut by the wide one alone.  Here this is compared with
two readers of indentation that know nothing of each other: one measures with wide tabs,
the other with narrow ones.

Main definitions:

- `OneWidth.step` and `OneWidth.events?`: the reader for one measure, and what it makes of
  the rows.
- `Levels.Nested`: there is a level, and inner levels are deeper by both measures.

Main results:

- Theorems `Levels.steps_of_enter` and `Levels.enter_of_steps`: a row fits the levels
  exactly if both readers make the same of it.
- Theorem `ambiguousColumns_eq_false_iff`: the same for all rows.
- Theorem `ambiguousTabs_eq_false_iff`: the tabs of a source are unambiguous exactly if
  the two readers agree; the levels stay nested all the way.
-/

namespace PythonStyle

/-! ## Indentation by one measure -/

/-- What is popped from a stack, if popping stops at a known element. -/
theorem exists_append_of_head?_dropWhile {α : Type} {q : α → Bool} {stack : List α} {a : α}
    (h : (stack.dropWhile q).head? = some a) :
    ∃ popped below, stack = popped ++ a :: below ∧ stack.dropWhile q = a :: below := by
  obtain ⟨below, hbelow⟩ := List.head?_eq_some_iff.mp h
  refine ⟨stack.takeWhile q, below, ?_, hbelow⟩
  rw [← hbelow, List.takeWhile_append_dropWhile]

/-- What a row does to the open blocks. -/
inductive LayoutEvent where
  /-- The row belongs to the innermost block. -/
  | same
  /-- The row opens a block. -/
  | indent
  /-- The row closes some blocks. -/
  | dedent (blocks : Nat)
  deriving DecidableEq, Repr

namespace OneWidth

/-- Reads a row of a given width.  The stack holds the widths of the open blocks, the
innermost first.  A row that closes blocks has to meet the width of an open one. -/
def step (stack : List Nat) (width : Nat) : Option (LayoutEvent × List Nat) :=
  match stack with
  | [] => none
  | top :: _ =>
    if width = top then some (.same, stack)
    else if top < width then some (.indent, width :: stack)
    else
      let open' := stack.dropWhile (width < ·)
      if open'.head? = some width then some (.dedent (stack.length - open'.length), open')
      else none

/-- Reads rows of given widths.  Each row gives one event. -/
def run : List Nat → List Nat → Option (List LayoutEvent)
  | _, [] => some []
  | stack, width :: widths =>
    match step stack width with
    | none => none
    | some (event, stack) => (run stack widths).map (event :: ·)

/-- The events of rows of given widths, from the margin on. -/
def events? (widths : List Nat) : Option (List LayoutEvent) := run [0] widths

theorem run_cons_eq_some_iff {stack widths : List Nat} {width : Nat}
    {events : List LayoutEvent} :
    run stack (width :: widths) = some events ↔
      ∃ event stack' rest, step stack width = some (event, stack') ∧
        run stack' widths = some rest ∧ events = event :: rest := by
  rw [run]
  cases hstep : step stack width with
  | none => simp
  | some result =>
      obtain ⟨event, stack'⟩ := result
      simp only [Option.map_eq_some_iff, Option.some.injEq, Prod.mk.injEq]
      constructor
      · rintro ⟨rest, hrest, rfl⟩
        exact ⟨event, stack', rest, ⟨rfl, rfl⟩, hrest, rfl⟩
      · rintro ⟨_, _, rest, ⟨rfl, rfl⟩, hrest, rfl⟩
        exact ⟨rest, hrest, rfl⟩

/-! ### The three kinds of rows -/

/-- What a row is like for which a reader gives an event. -/
theorem step_cases {stack stack' : List Nat} {width : Nat} {event : LayoutEvent}
    (h : step stack width = some (event, stack')) :
    (event = .same ∧ stack.head? = some width) ∨
      (event = .indent ∧ ∃ top, stack.head? = some top ∧ top < width) ∨
      ∃ popped below, event = .dedent popped.length ∧ popped ≠ [] ∧
        stack = popped ++ width :: below := by
  cases stack with
  | nil => simp [step] at h
  | cons top rest =>
      simp only [step] at h
      by_cases heq : width = top
      · rw [if_pos heq, Option.some.injEq, Prod.mk.injEq] at h
        exact Or.inl ⟨h.1.symm, by rw [heq]; rfl⟩
      rw [if_neg heq] at h
      by_cases hlt : top < width
      · rw [if_pos hlt, Option.some.injEq, Prod.mk.injEq] at h
        exact Or.inr (Or.inl ⟨h.1.symm, top, rfl, hlt⟩)
      rw [if_neg hlt] at h
      by_cases hhead : ((top :: rest).dropWhile (width < ·)).head? = some width
      · rw [if_pos hhead, Option.some.injEq, Prod.mk.injEq] at h
        obtain ⟨popped, below, hsplit, hbelow⟩ := exists_append_of_head?_dropWhile hhead
        have hlength : (top :: rest).length - (width :: below).length = popped.length := by
          rw [hsplit, List.length_append, Nat.add_sub_cancel]
        have hpopped : popped ≠ [] := by
          rintro rfl
          exact heq (List.cons.inj hsplit).1.symm
        rw [hbelow, hlength] at h
        exact Or.inr (Or.inr ⟨popped, below, h.1.symm, hpopped, hsplit⟩)
      · rw [if_neg hhead] at h
        contradiction

theorem step_same {stack : List Nat} {width : Nat} (h : stack.head? = some width) :
    step stack width = some (.same, stack) := by
  obtain ⟨rest, rfl⟩ := List.head?_eq_some_iff.mp h
  simp [step]

theorem step_indent {stack : List Nat} {width top : Nat} (h : stack.head? = some top)
    (hlt : top < width) : step stack width = some (.indent, width :: stack) := by
  obtain ⟨rest, rfl⟩ := List.head?_eq_some_iff.mp h
  have hne : width ≠ top := by omega
  simp [step, hne, hlt]

/-- In a stack of growing widths, a row that meets an open block closes those inside. -/
theorem step_dedent {popped below : List Nat} {width : Nat}
    (hstack : (popped ++ width :: below).Pairwise (· > ·)) (hne : popped ≠ []) :
    step (popped ++ width :: below) width =
      some (.dedent popped.length, width :: below) := by
  have hpopped : ∀ x ∈ popped, decide (width < x) = true := by
    intro x hx
    exact decide_eq_true ((List.pairwise_append.mp hstack).2.2 x hx width (by simp))
  have hdrop : (popped ++ width :: below).dropWhile (width < ·) = width :: below := by
    rw [List.dropWhile_append_of_pos hpopped, List.dropWhile_cons_of_neg (by simp)]
  cases popped with
  | nil => exact absurd rfl hne
  | cons top popped =>
      have htop : width < top := by simpa using hpopped top (by simp)
      have hne' : width ≠ top := by omega
      have hnlt : ¬ top < width := by omega
      simp only [List.cons_append] at hdrop ⊢
      have hlength : (top :: (popped ++ width :: below)).length - (width :: below).length =
          (top :: popped).length := by
        simp only [List.length_cons, List.length_append]
        omega
      simp only [step, hne', hnlt, if_false, hdrop, List.head?_cons, if_true, hlength]

end OneWidth

/-! ## Levels -/

theorem Columns.ext {c d : Columns} (hwide : c.wide = d.wide) (hnarrow : c.narrow = d.narrow) :
    c = d := by
  cases c
  cases d
  simp_all

/-- Whether a level is deeper than another one by both measures. -/
def Columns.Deeper (inner outer : Columns) : Prop :=
  outer.wide < inner.wide ∧ outer.narrow < inner.narrow

namespace Levels

/-- There is a level, and inner levels are deeper by both measures. -/
def Nested (levels : Levels) : Prop :=
  levels ≠ [] ∧ levels.Pairwise Columns.Deeper

/-- What holds of the levels after any rows: inner levels are deeper, and the outermost one
is the margin. -/
structure Anchored (levels : Levels) : Prop where
  pairwise : levels.Pairwise Columns.Deeper
  outermost : levels.getLast? = some ⟨0, 0⟩

theorem Anchored.ne_nil {levels : Levels} (h : levels.Anchored) : levels ≠ [] := by
  intro hnil
  simpa [hnil] using h.outermost

theorem Anchored.nested {levels : Levels} (h : levels.Anchored) : levels.Nested :=
  ⟨h.ne_nil, h.pairwise⟩

theorem anchored_base : base.Anchored :=
  ⟨List.pairwise_singleton _ _, rfl⟩

/-- Levels stay anchored when the inner ones are closed. -/
theorem Anchored.of_append {popped levels : Levels} (h : Anchored (popped ++ levels))
    (hne : levels ≠ []) : levels.Anchored :=
  ⟨(List.pairwise_append.mp h.pairwise).2.1, by
    rw [← h.outermost, List.getLast?_append_of_ne_nil _ hne]⟩

/-- Levels stay anchored when a deeper one is opened. -/
theorem Anchored.cons {levels : Levels} (h : levels.Anchored) {top c : Columns}
    (htop : levels.head? = some top) (hc : c.Deeper top) : Anchored (c :: levels) := by
  obtain ⟨rest, rfl⟩ := List.head?_eq_some_iff.mp htop
  refine ⟨List.pairwise_cons.mpr ⟨?_, h.pairwise⟩, ?_⟩
  · intro outer houter
    rcases List.mem_cons.mp houter with rfl | houter
    · exact hc
    · have hdeeper := List.rel_of_pairwise_cons h.pairwise houter
      exact ⟨Nat.lt_trans hdeeper.1 hc.1, Nat.lt_trans hdeeper.2 hc.2⟩
  · rw [List.getLast?_cons_cons, h.outermost]

/-- The margin is never closed, so that closing blocks leaves out those that are indented
more than the width. -/
theorem closeTo_eq_dropWhile {levels : Levels} (h : levels.Anchored) (wide : Nat) :
    closeTo wide levels = levels.dropWhile fun level => wide < level.wide := by
  induction levels with
  | nil => rfl
  | cons top rest ih =>
      cases rest with
      | nil =>
          have htop : top = ⟨0, 0⟩ := by simpa using h.outermost
          simp [closeTo, htop]
      | cons next below =>
          have hsplit : Anchored ([top] ++ next :: below) := h
          have hrest : Anchored (next :: below) := hsplit.of_append (by simp)
          rw [closeTo]
          by_cases hwide : wide < top.wide
          · rw [if_pos hwide, ih hrest]
            exact (List.dropWhile_cons_of_pos (by simpa using hwide)).symm
          · rw [if_neg hwide, List.dropWhile_cons_of_neg (by simpa using hwide)]

/-- Closing blocks leaves the outermost one. -/
theorem anchored_closeTo {levels : Levels} (h : levels.Anchored) (wide : Nat) :
    (closeTo wide levels).Anchored := by
  rw [closeTo_eq_dropWhile h]
  have hsplit := List.takeWhile_append_dropWhile
    (p := fun level : Columns => decide (wide < level.wide)) (l := levels)
  rw [← hsplit] at h
  apply Anchored.of_append h
  intro hnil
  have hmargin : (⟨0, 0⟩ : Columns) ∈ levels := by
    rw [← hsplit]
    exact List.mem_of_getLast? h.outermost
  simpa using List.dropWhile_eq_nil_iff.mp hnil _ hmargin

/-! ### The three kinds of rows -/

/-- What a row is like that fits the levels. -/
theorem enter_cases {levels levels' : Levels} {c : Columns} (h : levels.Anchored)
    (henter : enter levels c = some levels') :
    (levels.head? = some c ∧ levels' = levels) ∨
      (∃ top, levels.head? = some top ∧ c.Deeper top ∧ levels' = c :: levels) ∨
      ∃ popped below, popped ≠ [] ∧ levels = popped ++ c :: below ∧ levels' = c :: below := by
  cases levels with
  | nil => exact absurd rfl h.ne_nil
  | cons top rest =>
      simp only [enter] at henter
      by_cases hwide : c.wide = top.wide
      · rw [if_pos hwide] at henter
        by_cases hnarrow : c.narrow = top.narrow
        · rw [if_pos hnarrow] at henter
          have hc : c = top := Columns.ext hwide hnarrow
          exact Or.inl ⟨by rw [hc]; rfl, (Option.some.inj henter).symm⟩
        · rw [if_neg hnarrow] at henter
          contradiction
      rw [if_neg hwide] at henter
      by_cases hdeeper : top.wide < c.wide
      · rw [if_pos hdeeper] at henter
        by_cases hnarrow : c.narrow ≤ top.narrow
        · rw [if_pos hnarrow] at henter
          contradiction
        · rw [if_neg hnarrow] at henter
          have hnarrow' : top.narrow < c.narrow := by omega
          have hlevels := (Option.some.inj henter).symm
          exact Or.inr (Or.inl ⟨top, rfl, ⟨hdeeper, hnarrow'⟩, hlevels⟩)
      rw [if_neg hdeeper] at henter
      by_cases hhead : (closeTo c.wide (top :: rest)).head? = some c
      · rw [if_pos hhead] at henter
        rw [closeTo_eq_dropWhile h] at hhead henter
        obtain ⟨popped, below, hsplit, hbelow⟩ :=
          exists_append_of_head?_dropWhile hhead
        have hpopped : popped ≠ [] := by
          rintro rfl
          exact hwide (by rw [(List.cons.inj hsplit).1])
        have hlevels : levels' = c :: below := by rw [← Option.some.inj henter, hbelow]
        exact Or.inr (Or.inr ⟨popped, below, hpopped, hsplit, hlevels⟩)
      · rw [if_neg hhead] at henter
        contradiction

/-- Levels stay anchored. -/
theorem anchored_enter {levels levels' : Levels} {c : Columns} (h : levels.Anchored)
    (henter : enter levels c = some levels') : levels'.Anchored := by
  rcases enter_cases h henter with
    ⟨_, rfl⟩ | ⟨top, htop, hdeeper, rfl⟩ | ⟨popped, below, _, rfl, rfl⟩
  · exact h
  · exact h.cons htop hdeeper
  · exact h.of_append (by simp)

/-- A row that returns to an open block fits the levels. -/
theorem enter_append {popped below : Levels} {c : Columns} (h : Anchored (popped ++ c :: below))
    (hne : popped ≠ []) : enter (popped ++ c :: below) c = some (c :: below) := by
  have hpopped : ∀ level ∈ popped, decide (c.wide < level.wide) = true := by
    intro level hlevel
    exact decide_eq_true ((List.pairwise_append.mp h.pairwise).2.2 level hlevel c (by simp)).1
  have hclose : closeTo c.wide (popped ++ c :: below) = c :: below := by
    rw [closeTo_eq_dropWhile h, List.dropWhile_append_of_pos hpopped,
      List.dropWhile_cons_of_neg (by simp)]
  cases popped with
  | nil => exact absurd rfl hne
  | cons top popped =>
      have htop : c.wide < top.wide := by simpa using hpopped top (by simp)
      have hne' : c.wide ≠ top.wide := by omega
      have hnlt : ¬ top.wide < c.wide := by omega
      simp only [List.cons_append] at hclose ⊢
      simp only [enter, hne', hnlt, if_false, hclose, List.head?_cons, if_true]

/-! ### Two readers -/

theorem pairwise_wide {levels : Levels} (h : levels.Anchored) :
    (levels.map Columns.wide).Pairwise (· > ·) :=
  List.pairwise_map.mpr (h.pairwise.imp fun hdeeper => hdeeper.1)

theorem pairwise_narrow {levels : Levels} (h : levels.Anchored) :
    (levels.map Columns.narrow).Pairwise (· > ·) :=
  List.pairwise_map.mpr (h.pairwise.imp fun hdeeper => hdeeper.2)

/-- Both readers make the same of a row that fits the levels. -/
theorem steps_of_enter {levels levels' : Levels} {c : Columns} (h : levels.Anchored)
    (henter : enter levels c = some levels') :
    ∃ event,
      OneWidth.step (levels.map Columns.wide) c.wide =
          some (event, levels'.map Columns.wide) ∧
        OneWidth.step (levels.map Columns.narrow) c.narrow =
          some (event, levels'.map Columns.narrow) := by
  have hwide := pairwise_wide h
  have hnarrow := pairwise_narrow h
  rcases enter_cases h henter with
    ⟨hhead, rfl⟩ | ⟨top, htop, hdeeper, rfl⟩ | ⟨popped, below, hne, rfl, rfl⟩
  · exact ⟨.same, OneWidth.step_same (by simp [hhead]), OneWidth.step_same (by simp [hhead])⟩
  · exact ⟨.indent, OneWidth.step_indent (by simp [htop]) hdeeper.1,
      OneWidth.step_indent (by simp [htop]) hdeeper.2⟩
  · rw [List.map_append, List.map_cons] at hwide hnarrow
    refine ⟨.dedent popped.length, ?_, ?_⟩
    · rw [List.map_append, List.map_cons, OneWidth.step_dedent hwide (by simpa using hne),
        List.length_map]
    · rw [List.map_append, List.map_cons, OneWidth.step_dedent hnarrow (by simpa using hne),
        List.length_map]

/-- The level that both readers return to. -/
theorem exists_append_of_map {levels : Levels} {c : Columns}
    {wides wides' narrows narrows' : List Nat}
    (hwide : levels.map Columns.wide = wides ++ c.wide :: wides')
    (hnarrow : levels.map Columns.narrow = narrows ++ c.narrow :: narrows')
    (hlength : wides.length = narrows.length) :
    ∃ popped below, levels = popped ++ c :: below ∧ popped.length = wides.length := by
  obtain ⟨popped, rest, rfl, hpopped, hrest⟩ := List.map_eq_append_iff.mp hwide
  obtain ⟨level, below, rfl, hlevel, -⟩ := List.map_eq_cons_iff.mp hrest
  have hpoppedLength : popped.length = wides.length := by rw [← hpopped, List.length_map]
  have hrest' : (level :: below).map Columns.narrow = c.narrow :: narrows' := by
    rw [List.map_append] at hnarrow
    exact (List.append_inj hnarrow (by rw [List.length_map, hpoppedLength, hlength])).2
  have hlevel' : level.narrow = c.narrow := (List.cons.inj hrest').1
  have hc : level = c := Columns.ext hlevel hlevel'
  exact ⟨popped, below, by rw [hc], hpoppedLength⟩

/-- A row fits the levels if both readers make the same of it. -/
theorem enter_of_steps {levels : Levels} {c : Columns} {event : LayoutEvent}
    {wides narrows : List Nat} (h : levels.Anchored)
    (hwide : OneWidth.step (levels.map Columns.wide) c.wide = some (event, wides))
    (hnarrow : OneWidth.step (levels.map Columns.narrow) c.narrow = some (event, narrows)) :
    ∃ levels', enter levels c = some levels' := by
  obtain ⟨top, rest, rfl⟩ := List.exists_cons_of_ne_nil h.ne_nil
  cases event with
  | same =>
      have htop : c.wide = top.wide := by
        simpa [eq_comm] using OneWidth.step_cases hwide
      have htop' : c.narrow = top.narrow := by
        simpa [eq_comm] using OneWidth.step_cases hnarrow
      exact ⟨top :: rest, by simp [enter, htop, htop']⟩
  | indent =>
      have htop : top.wide < c.wide := by simpa using OneWidth.step_cases hwide
      have htop' : top.narrow < c.narrow := by simpa using OneWidth.step_cases hnarrow
      have hne : c.wide ≠ top.wide := by omega
      have hnle : ¬ c.narrow ≤ top.narrow := by omega
      exact ⟨c :: top :: rest, by simp [enter, hne, htop, hnle]⟩
  | dedent blocks =>
      obtain ⟨wides', wides'', hblocks, hne, hsplit⟩ :
          ∃ popped below, LayoutEvent.dedent blocks = .dedent popped.length ∧ popped ≠ [] ∧
            (top :: rest).map Columns.wide = popped ++ c.wide :: below := by
        simpa using OneWidth.step_cases hwide
      obtain ⟨narrows', narrows'', hblocks', -, hsplit'⟩ :
          ∃ popped below, LayoutEvent.dedent blocks = .dedent popped.length ∧ popped ≠ [] ∧
            (top :: rest).map Columns.narrow = popped ++ c.narrow :: below := by
        simpa using OneWidth.step_cases hnarrow
      have hlength : wides'.length = narrows'.length :=
        LayoutEvent.dedent.inj (hblocks.symm.trans hblocks')
      obtain ⟨popped, below, hlevels, hpopped⟩ := exists_append_of_map hsplit hsplit' hlength
      have hpopped' : popped ≠ [] := by
        rintro rfl
        exact hne (List.eq_nil_of_length_eq_zero hpopped.symm)
      rw [hlevels] at h ⊢
      exact ⟨c :: below, enter_append h hpopped'⟩

/-! ### All rows -/

/-- Levels stay anchored over any rows. -/
theorem anchored_foldlM {columns : List Columns} {levels levels' : Levels} (h : levels.Anchored)
    (hrows : columns.foldlM enter levels = some levels') : levels'.Anchored := by
  induction columns generalizing levels with
  | nil =>
      obtain rfl : levels = levels' := by simpa using hrows
      exact h
  | cons c columns ih =>
      obtain ⟨next, henter, hrest⟩ :
          ∃ next, enter levels c = some next ∧ columns.foldlM enter next = some levels' := by
        simpa [List.foldlM_cons, Option.bind_eq_some_iff] using hrows
      exact ih (anchored_enter h henter) hrest

/-- All rows fit the levels exactly if both readers make the same of them. -/
theorem isSome_foldlM_iff {columns : List Columns} {levels : Levels} (h : levels.Anchored) :
    (columns.foldlM enter levels).isSome ↔
      ∃ events,
        OneWidth.run (levels.map Columns.wide) (columns.map Columns.wide) = some events ∧
          OneWidth.run (levels.map Columns.narrow) (columns.map Columns.narrow) =
            some events := by
  induction columns generalizing levels with
  | nil => simp [OneWidth.run]
  | cons c columns ih =>
      simp only [List.map_cons, OneWidth.run_cons_eq_some_iff, List.foldlM_cons]
      constructor
      · intro hsome
        obtain ⟨levels', hrows⟩ := Option.isSome_iff_exists.mp hsome
        obtain ⟨next, henter, hrest⟩ := Option.bind_eq_some_iff.mp hrows
        obtain ⟨event, hwide, hnarrow⟩ := steps_of_enter h henter
        obtain ⟨events, hwides, hnarrows⟩ :=
          (ih (anchored_enter h henter)).mp (by rw [hrest]; rfl)
        exact ⟨event :: events, ⟨event, _, events, hwide, hwides, rfl⟩,
          ⟨event, _, events, hnarrow, hnarrows, rfl⟩⟩
      · rintro ⟨_, ⟨event, wides, rest, hwide, hwides, rfl⟩,
          ⟨event', narrows, rest', hnarrow, hnarrows, hevents⟩⟩
        obtain ⟨rfl, rfl⟩ := List.cons.inj hevents
        obtain ⟨next, henter⟩ := enter_of_steps h hwide hnarrow
        -- The stacks that the readers are left with are those of the levels.
        obtain ⟨event'', hwide', hnarrow'⟩ := steps_of_enter h henter
        rw [hwide, Option.some.injEq, Prod.mk.injEq] at hwide'
        rw [hnarrow, Option.some.injEq, Prod.mk.injEq] at hnarrow'
        rw [hwide'.2] at hwides
        rw [hnarrow'.2] at hnarrows
        rw [henter]
        exact (ih (anchored_enter h henter)).mpr ⟨rest, hwides, hnarrows⟩

end Levels

/-- A sequence of rows is unambiguous exactly if both readers make the same of it. -/
theorem ambiguousColumns_eq_false_iff (columns : List Columns) :
    ambiguousColumns columns = false ↔
      ∃ events, OneWidth.events? (columns.map Columns.wide) = some events ∧
        OneWidth.events? (columns.map Columns.narrow) = some events := by
  have hiff : (columns.foldlM Levels.enter Levels.base).isSome ↔ _ :=
    Levels.isSome_foldlM_iff Levels.anchored_base
  rw [ambiguousColumns, ← Option.not_isSome, Bool.not_eq_false', hiff]
  rfl

/-- A line under a tab that starts with eight blanks instead. -/
example : ambiguousColumns [⟨0, 0⟩, ⟨8, 1⟩, ⟨8, 8⟩] = true := by decide

/-! ## The rows of a source -/

/-- Dropping repetitions from rows that ascend.  The rows found so far come latest first. -/
theorem pairwise_eraseReps_loop {row : Nat} {rows found : List Nat}
    (hrows : (row :: rows).Pairwise (· ≤ ·)) (hfound : (row :: found).Pairwise (· > ·)) :
    (List.eraseRepsBy.loop (· == ·) row rows found).Pairwise (· < ·) := by
  induction rows generalizing row found with
  | nil =>
      rw [List.eraseRepsBy.loop]
      exact List.pairwise_reverse.mpr hfound
  | cons next rows ih =>
      obtain ⟨hle, hrest⟩ := List.pairwise_cons.mp hrows
      have hnext : row ≤ next := hle next (by simp)
      rw [List.eraseRepsBy.loop]
      by_cases heq : row = next
      · subst heq
        rw [beq_self_eq_true]
        exact ih hrest hfound
      · rw [beq_false_of_ne heq]
        refine ih hrest (List.pairwise_cons.mpr ⟨?_, hfound⟩)
        intro x hx
        rcases List.mem_cons.mp hx with rfl | hx
        · omega
        · have hlt := List.rel_of_pairwise_cons hfound hx
          omega

/-- The rows of the logical lines ascend, and none comes twice. -/
theorem pairwise_logicalRows (s : Source) (t : Tree) : (logicalRows s t).Pairwise (· < ·) := by
  simp only [logicalRows, List.eraseReps]
  generalize (t.cursors.filter startsLogicalLine).filterMap
    (fun c => rowIfFirst? s s.rows c.focus) = found
  have hsorted : (found.mergeSort (· ≤ ·)).Pairwise (· ≤ ·) := by
    have h : (found.mergeSort (· ≤ ·)).Pairwise fun x y => decide (x ≤ y) = true := by
      apply List.pairwise_mergeSort
      · intro x y z hxy hyz
        exact decide_eq_true (Nat.le_trans (of_decide_eq_true hxy) (of_decide_eq_true hyz))
      · intro x y
        simp only [Bool.or_eq_true, decide_eq_true_eq]
        omega
    exact h.imp fun hle => of_decide_eq_true hle
  cases hrows : found.mergeSort (· ≤ ·) with
  | nil => exact List.Pairwise.nil
  | cons row rows =>
      rw [hrows] at hsorted
      exact pairwise_eraseReps_loop hsorted (List.pairwise_singleton _ _)

/-- The tabs of a source are unambiguous exactly if the reader with wide tabs and the reader
with narrow ones both accept its logical lines and make the same of each.  The lines are
read once each and from the top, and the levels stay nested on the way, also while blocks
are being closed. -/
theorem ambiguousTabs_eq_false_iff (s : Source) (t : Tree) :
    (logicalRows s t).Pairwise (· < ·) ∧
      (ambiguousTabs s t = false ↔
        ∃ events,
          OneWidth.events? ((logicalColumns s t).map Columns.wide) = some events ∧
            OneWidth.events? ((logicalColumns s t).map Columns.narrow) = some events) ∧
      ∀ earlier later levels, logicalColumns s t = earlier ++ later →
        earlier.foldlM Levels.enter Levels.base = some levels →
          levels.Nested ∧ ∀ wide, (levels.closeTo wide).Nested := by
  refine ⟨pairwise_logicalRows s t, ambiguousColumns_eq_false_iff _, ?_⟩
  intro earlier later levels _ hrows
  have hlevels := Levels.anchored_foldlM Levels.anchored_base hrows
  exact ⟨hlevels.nested, fun wide => (Levels.anchored_closeTo hlevels wide).nested⟩

end PythonStyle
