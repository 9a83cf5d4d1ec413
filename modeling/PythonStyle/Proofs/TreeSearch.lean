import PythonStyle.Acceptance
import PythonStyle.Proofs.CursorPlaces

/-!
# A search, step by step

A search asks about the node on which its cursor stands, and then moves on: down to the first child,
and if there is none sideways to the next sibling, or up until there is one.  Here a search is taken
one move at a time.  It needs two steps for each node at most, and asks about the nodes in preorder,
each once, up to the first about which the answer is yes.

Main definitions:

- `Question`: what a search asks, which may remember what it was asked before.
- `Search`: a search under way, and `Search.step` and `Search.run`: how it goes on.
- `Search.Move`: what a step can do.
- `Search.OnCourse` and `Search.Inside`: what holds of a search, and where it stands.

Main results:

- Theorem `Search.remaining_step`: each step brings a search nearer to its end.
- Theorems `Search.OnCourse.move` and `Search.onCourse_run`: a search keeps to the preorder.
- Theorems `Search.Inside.move` and `Search.inside_run`: a search does not leave the tree.
- Theorem `Search.run_start`: how a search ends.
- Theorem `search_in_preorder`: what a search does, and what it says about a tree.
-/

namespace PythonStyle

/-- A question about a cursor.  The answer may depend on the cursors that it was asked about
before. -/
abbrev Question := List Cursor → Cursor → Bool

/-- Whether a question was answered with no, about all cursors of a list in turn. -/
def Refused (q : Question) (cursors : List Cursor) : Prop :=
  ∀ before c after, cursors = before ++ c :: after → q before c = false

theorem refused_nil (q : Question) : Refused q [] := by
  intro before c after h
  simp at h

theorem Refused.concat {q : Question} {cursors : List Cursor} {c : Cursor} (h : Refused q cursors)
    (hc : q cursors c = false) : Refused q (cursors ++ [c]) := by
  intro before d after hsplit
  rcases List.eq_nil_or_concat after with rfl | ⟨front, last, rfl⟩
  · obtain ⟨rfl, hlast⟩ := List.append_inj' hsplit rfl
    obtain rfl : c = d := by simpa using hlast
    exact hc
  · have hfront : cursors = before ++ d :: front := by
      rw [List.concat_eq_append, ← List.cons_append, ← List.append_assoc] at hsplit
      exact (List.append_inj' hsplit rfl).1
    exact h before d front hfront

/-- What a search is about to do. -/
inductive Stage where
  /-- It asks about the node where the cursor stands. -/
  | asking (c : Cursor)
  /-- It looks for the way on from a node that has nothing more below it. -/
  | leaving (c : Cursor)
  /-- It is over, and the answer was yes or never was. -/
  | ended (found : Bool)

/-- A search under way: the cursors that it asked about, in order, and what it is about to do. -/
structure Search where
  asked : List Cursor
  stage : Stage

namespace Search

/-- A search before the first question. -/
def start (t : Tree) : Search := ⟨[], .asking (.ofRoot t)⟩

/-- One step of a search: a question and a move down, or a move sideways or up. -/
def step (q : Question) : Search → Search
  | ⟨asked, .asking c⟩ =>
      if q asked c then ⟨asked ++ [c], .ended true⟩
      else
        match c.firstChild? with
        | some d => ⟨asked ++ [c], .asking d⟩
        | none => ⟨asked ++ [c], .leaving c⟩
  | ⟨asked, .leaving c⟩ =>
      match c.nextSibling? with
      | some d => ⟨asked, .asking d⟩
      | none =>
          match c.up? with
          | some d => ⟨asked, .leaving d⟩
          | none => ⟨asked, .ended false⟩
  | ⟨asked, .ended found⟩ => ⟨asked, .ended found⟩

/-- So many steps of a search. -/
def run (q : Question) : Nat → Search → Search
  | 0, s => s
  | n + 1, s => run q n (step q s)

/-- What a step can do. -/
inductive Move (q : Question) : Search → Search → Prop
  | found {asked : List Cursor} {c : Cursor} (hyes : q asked c = true) :
      Move q ⟨asked, .asking c⟩ ⟨asked ++ [c], .ended true⟩
  | down {asked : List Cursor} {c d : Cursor} (hno : q asked c = false)
      (hchild : c.firstChild? = some d) : Move q ⟨asked, .asking c⟩ ⟨asked ++ [c], .asking d⟩
  | bottom {asked : List Cursor} {c : Cursor} (hno : q asked c = false)
      (hchild : c.firstChild? = none) : Move q ⟨asked, .asking c⟩ ⟨asked ++ [c], .leaving c⟩
  | across {asked : List Cursor} {c d : Cursor} (hnext : c.nextSibling? = some d) :
      Move q ⟨asked, .leaving c⟩ ⟨asked, .asking d⟩
  | up {asked : List Cursor} {c d : Cursor} (hnext : c.nextSibling? = none) (hup : c.up? = some d) :
      Move q ⟨asked, .leaving c⟩ ⟨asked, .leaving d⟩
  | top {asked : List Cursor} {c : Cursor} (hnext : c.nextSibling? = none) (hup : c.up? = none) :
      Move q ⟨asked, .leaving c⟩ ⟨asked, .ended false⟩
  | rest {asked : List Cursor} {found : Bool} : Move q ⟨asked, .ended found⟩ ⟨asked, .ended found⟩

/-- A step does one of these things. -/
theorem move_step (q : Question) (s : Search) : Move q s (step q s) := by
  obtain ⟨asked, stage⟩ := s
  cases stage with
  | asking c =>
      rw [step]
      split
      · next hyes => exact .found hyes
      · next hyes =>
          have hno : q asked c = false := Bool.eq_false_iff.mpr hyes
          split
          · next d hchild => exact .down hno hchild
          · next hchild => exact .bottom hno hchild
  | leaving c =>
      rw [step]
      split
      · next d hnext => exact .across hnext
      · next hnext =>
          split
          · next d hup => exact .up hnext hup
          · next hup => exact .top hnext hup
  | ended found => exact .rest

/-- What every step keeps holds after any number of them. -/
theorem run_of_move {q : Question} {P : Search → Prop}
    (hmove : ∀ s s' : Search, Move q s s' → P s → P s') {s : Search} (hs : P s) (n : Nat) :
    P (run q n s) := by
  induction n generalizing s with
  | zero => exact hs
  | succ n ih => exact ih (hmove s (step q s) (move_step q s) hs)

end Search

/-! ## The end of a search -/

namespace Cursor

variable {c d : Cursor}

theorem length_path_of_firstChild? (h : c.firstChild? = some d) :
    d.path.length = c.path.length + 1 := by
  unfold firstChild? at h
  split at h
  · cases h
  · obtain rfl := Option.some.inj h
    rfl

theorem length_path_of_nextSibling? (h : c.nextSibling? = some d) :
    d.path.length = c.path.length := by
  unfold nextSibling? at h
  split at h
  · next parent t later path hpath =>
      obtain rfl := Option.some.inj h
      rw [hpath]
      rfl
  · cases h

end Cursor

/-- The number of steps that a search has before it if every answer is no: it asks about each node
ahead and leaves it, and it leaves each node on the way to the cursor. -/
def Stage.remaining : Stage → Nat
  | .asking c => 2 * (c.pending + 1) + c.path.length
  | .leaving c => 2 * Cursor.laterCount c.path + c.path.length + 1
  | .ended _ => 0

theorem Stage.exists_ended {stage : Stage} (h : stage.remaining = 0) :
    ∃ found, stage = .ended found := by
  cases stage with
  | asking c =>
      rw [remaining] at h
      omega
  | leaving c =>
      rw [remaining] at h
      omega
  | ended found => exact ⟨found, rfl⟩

namespace Search

variable {q : Question} {s s' : Search}

theorem Move.remaining_le (h : Move q s s') : s'.stage.remaining ≤ s.stage.remaining - 1 := by
  cases h with
  | found hyes => exact Nat.zero_le _
  | down hno hchild =>
      have hpending := Cursor.pending_firstChild? hchild
      have hlength := Cursor.length_path_of_firstChild? hchild
      simp only [Stage.remaining]
      omega
  | bottom hno hchild =>
      simp only [Stage.remaining, Cursor.pending]
      omega
  | across hnext =>
      have hpending := Cursor.pending_nextSibling? hnext
      have hlength := Cursor.length_path_of_nextSibling? hnext
      simp only [Stage.remaining]
      omega
  | up hnext hup =>
      have hlater := Cursor.laterCount_up? hup
      have hlength := Cursor.length_up? hup
      simp only [Stage.remaining]
      omega
  | top hnext hup => exact Nat.zero_le _
  | rest => exact Nat.zero_le _

/-- Each step brings a search nearer to its end. -/
theorem remaining_step (q : Question) (s : Search) :
    (step q s).stage.remaining ≤ s.stage.remaining - 1 := (move_step q s).remaining_le

theorem remaining_run (q : Question) (n : Nat) (s : Search) :
    (run q n s).stage.remaining ≤ s.stage.remaining - n := by
  induction n generalizing s with
  | zero => exact Nat.le_refl _
  | succ n ih =>
      have hstep := remaining_step q s
      have hrest := ih (step q s)
      rw [run]
      omega

theorem remaining_start (t : Tree) : (start t).stage.remaining = 2 * t.count := by
  rw [Tree.count_eq]
  rfl

/-- A search of a tree is over after two steps for each node. -/
theorem exists_ended_run (q : Question) (t : Tree) (more : Nat) :
    ∃ found, (run q (2 * t.count + more) (start t)).stage = .ended found := by
  apply Stage.exists_ended
  have hleft := remaining_run q (2 * t.count + more) (start t)
  rw [remaining_start] at hleft
  omega

end Search

/-! ## The course of a search -/

namespace Cursor

variable {c d : Cursor}

theorem climb?_of_nextSibling? (h : c.nextSibling? = some d) : c.climb? = some d := by
  rw [climb?, h]

theorem climb?_of_up? (hnext : c.nextSibling? = none) (hup : c.up? = some d) :
    c.climb? = d.climb? := by
  conv => lhs; rw [climb?, hnext]
  dsimp only
  split
  · next e he => rw [Option.some.inj (he.symm.trans hup)]
  · next he => cases he.symm.trans hup

theorem climb?_eq_none (hnext : c.nextSibling? = none) (hup : c.up? = none) : c.climb? = none := by
  rw [climb?, hnext]
  dsimp only
  split
  · next e he => cases he.symm.trans hup
  · rfl

/-- What a walk comes to from a node that has nothing more below it. -/
def onward (c : Cursor) : List Cursor :=
  match c.climb? with
  | some d => d.walk
  | none => []

theorem onward_of_nextSibling? (h : c.nextSibling? = some d) : c.onward = d.walk := by
  rw [onward, climb?_of_nextSibling? h]

theorem onward_of_up? (hnext : c.nextSibling? = none) (hup : c.up? = some d) :
    c.onward = d.onward := by
  rw [onward, climb?_of_up? hnext hup, onward]

theorem onward_eq_nil (hnext : c.nextSibling? = none) (hup : c.up? = none) : c.onward = [] := by
  rw [onward, climb?_eq_none hnext hup]

theorem exists_walk_eq_cons (c : Cursor) : ∃ after, c.walk = c :: after := by
  rw [walk]
  exact ⟨_, rfl⟩

theorem walk_of_firstChild? (h : c.firstChild? = some d) : c.walk = c :: d.walk :=
  walk_of_next? (by rw [next?, h])

theorem walk_of_firstChild?_eq_none (h : c.firstChild? = none) : c.walk = c :: c.onward := by
  have hnext : c.next? = c.climb? := by rw [next?, h]
  rw [onward]
  cases hclimb : c.climb? with
  | none => exact walk_of_next?_eq_none (hnext.trans hclimb)
  | some d => exact walk_of_next? (hnext.trans hclimb)

end Cursor

/-- The cursors that a search will ask about if every answer is no. -/
def Stage.ahead : Stage → List Cursor
  | .asking c => c.walk
  | .leaving c => c.onward
  | .ended _ => []

/-- The cursor of a search, while it has one. -/
def Stage.cursor? : Stage → Option Cursor
  | .asking c => some c
  | .leaving c => some c
  | .ended _ => none

namespace Search

variable {q : Question} {cursors : List Cursor} {s s' : Search}

/-- What holds of a search through given cursors: it has asked about some of them in vain and has
the others before it, or it has come to the first about which the answer is yes. -/
inductive OnCourse (q : Question) (cursors : List Cursor) : Search → Prop
  | searching {asked : List Cursor} {stage : Stage} (hlast : stage ≠ .ended true)
      (hrefused : Refused q asked) (hcursors : asked ++ stage.ahead = cursors) :
      OnCourse q cursors ⟨asked, stage⟩
  | found {before after : List Cursor} {c : Cursor} (hcursors : before ++ c :: after = cursors)
      (hrefused : Refused q before) (hyes : q before c = true) :
      OnCourse q cursors ⟨before ++ [c], .ended true⟩

/-- A step keeps a search on course. -/
theorem OnCourse.move (h : OnCourse q cursors s) (hmove : Move q s s') : OnCourse q cursors s' := by
  cases h with
  | found hcursors hrefused hyes =>
      cases hmove with
      | rest => exact .found hcursors hrefused hyes
  | searching hlast hrefused hcursors =>
      cases hmove with
      | @found asked c hyes =>
          obtain ⟨after, hwalk⟩ := c.exists_walk_eq_cons
          rw [Stage.ahead, hwalk] at hcursors
          exact .found hcursors hrefused hyes
      | down hno hchild =>
          refine .searching nofun (hrefused.concat hno) ?_
          rw [← hcursors, Stage.ahead, Stage.ahead, Cursor.walk_of_firstChild? hchild]
          simp
      | bottom hno hchild =>
          refine .searching nofun (hrefused.concat hno) ?_
          rw [← hcursors, Stage.ahead, Stage.ahead, Cursor.walk_of_firstChild?_eq_none hchild]
          simp
      | across hnext =>
          refine .searching nofun hrefused ?_
          rw [← hcursors, Stage.ahead, Stage.ahead, Cursor.onward_of_nextSibling? hnext]
      | up hnext hup =>
          refine .searching nofun hrefused ?_
          rw [← hcursors, Stage.ahead, Stage.ahead, Cursor.onward_of_up? hnext hup]
      | top hnext hup =>
          refine .searching nofun hrefused ?_
          rw [← hcursors, Stage.ahead, Stage.ahead, Cursor.onward_eq_nil hnext hup]
      | rest => exact .searching hlast hrefused hcursors

theorem onCourse_run (h : OnCourse q cursors s) (n : Nat) : OnCourse q cursors (run q n s) :=
  run_of_move (fun _ _ hmove h => h.move hmove) h n

theorem onCourse_start (q : Question) (t : Tree) : OnCourse q t.cursors (start t) :=
  .searching nofun (refused_nil q) (List.nil_append _)

/-- How a search ends: about the first cursor for which the answer is yes, or about none. -/
theorem run_start (q : Question) (t : Tree) (more : Nat) :
    (∃ before c after, t.cursors = before ++ c :: after ∧ Refused q before ∧ q before c = true ∧
        run q (2 * t.count + more) (start t) = ⟨before ++ [c], .ended true⟩) ∨
      Refused q t.cursors ∧ run q (2 * t.count + more) (start t) = ⟨t.cursors, .ended false⟩ := by
  obtain ⟨found, hend⟩ := exists_ended_run q t more
  have hcourse := onCourse_run (onCourse_start q t) (2 * t.count + more)
  generalize run q (2 * t.count + more) (start t) = s at hend hcourse
  cases hcourse with
  | @found before after c hcursors hrefused hyes =>
      exact .inl ⟨before, c, after, hcursors.symm, hrefused, hyes, rfl⟩
  | @searching asked stage hlast hrefused hcursors =>
      obtain rfl : stage = .ended found := hend
      cases found with
      | true => exact absurd rfl hlast
      | false =>
          obtain rfl : asked = t.cursors := by rw [← hcursors, Stage.ahead, List.append_nil]
          exact .inr ⟨hrefused, rfl⟩

/-! ## The place of a search -/

/-- Whether the cursor of a search, while it has one, stands on a node of a tree. -/
def Inside (s : Search) (t : Tree) : Prop := ∀ c ∈ s.stage.cursor?, ∃ p, t.cursorAt? p = some c

/-- A step leads to a node of the tree again. -/
theorem Inside.move {t : Tree} (h : s.Inside t) (hmove : Move q s s') : s'.Inside t := by
  intro d hd
  cases hmove with
  | found hyes => cases hd
  | down hno hchild =>
      obtain rfl := Option.some.inj hd
      obtain ⟨p, hp⟩ := h _ rfl
      exact ⟨p ++ [0], (Cursor.firstChild?_eq hp).symm.trans hchild⟩
  | bottom hno hchild => exact h d hd
  | across hnext =>
      obtain rfl := Option.some.inj hd
      obtain ⟨p, hp⟩ := h _ rfl
      obtain ⟨above, i, -, hsibling⟩ := Cursor.cursorAt?_of_nextSibling? hp hnext
      exact ⟨above ++ [i + 1], hsibling⟩
  | up hnext hup =>
      obtain rfl := Option.some.inj hd
      obtain ⟨p, hp⟩ := h _ rfl
      obtain ⟨above, -, -, hparent⟩ := Cursor.cursorAt?_of_up? hp hup
      exact ⟨above, hparent⟩
  | top hnext hup => cases hd
  | rest => cases hd

theorem inside_run {t : Tree} (h : s.Inside t) (n : Nat) : (run q n s).Inside t :=
  run_of_move (P := fun s => s.Inside t) (fun _ _ hmove h => h.move hmove) h n

theorem inside_start (t : Tree) : (start t).Inside t := by
  intro c hc
  obtain rfl := Option.some.inj hc
  exact ⟨[], t.cursorAt?_nil⟩

/-! ## Questions that remember nothing -/

/-- A search finds something exactly if the answer is yes about some cursor. -/
theorem stage_run_start (p : Cursor → Bool) (t : Tree) (more : Nat) :
    (run (fun _ => p) (2 * t.count + more) (start t)).stage = .ended (t.any p) := by
  rcases run_start (fun _ => p) t more with
    ⟨before, c, after, hcursors, -, hyes, hrun⟩ | ⟨hrefused, hrun⟩
  · have hfound : t.cursors.any p = true :=
      List.any_eq_true.mpr ⟨c, by rw [hcursors]; simp, hyes⟩
    rw [hrun, Tree.any_eq_any_cursors, hfound]
  · have hnone : t.cursors.any p = false := by
      refine List.any_eq_false.mpr fun c hc => ?_
      obtain ⟨before, after, hcursors⟩ := List.append_of_mem hc
      have hno : p c = false := hrefused before c after hcursors
      rw [hno]
      exact Bool.false_ne_true
    rw [hrun, Tree.any_eq_any_cursors, hnone]

/-- A search that is never answered with yes asks about all cursors. -/
theorem run_start_of_never (t : Tree) (more : Nat) :
    run (fun _ _ => false) (2 * t.count + more) (start t) = ⟨t.cursors, .ended false⟩ := by
  rcases run_start (fun _ _ => false) t more with ⟨before, c, after, -, -, hyes, -⟩ | ⟨-, hrun⟩
  · cases hyes
  · exact hrun

end Search

/-! ## What a search says about a tree -/

theorem Tree.any_iff {t : Tree} {p : Cursor → Bool} :
    t.any p = true ↔ ∃ a c, t.cursorAt? a = some c ∧ p c = true := by
  rw [any_eq_any_cursors, List.any_eq_true]
  constructor
  · rintro ⟨c, hc, hp⟩
    obtain ⟨a, ha⟩ := mem_cursors.mp hc
    exact ⟨a, c, ha, hp⟩
  · rintro ⟨a, c, ha, hp⟩
    exact ⟨c, mem_cursors.mpr ⟨a, ha⟩, hp⟩

theorem isRejected_iff {t : Tree} :
    isRejected t = true ↔ t.kind = "print_statement" ∨ t.kind = "exec_statement" ∨
      (t.kind = "parameters" ∨ t.kind = "lambda_parameters") ∧ requiredAfterDefault t = true := by
  simp [isRejected, legacyKinds, or_assoc]

/-- A tree is rejected for what stands at some address of it. -/
theorem rejectedConstruct_iff {t : Tree} :
    rejectedConstruct t = true ↔ ∃ a u, t.at? a = some u ∧ isRejected u = true := by
  rw [rejectedConstruct, Tree.any_iff]
  constructor
  · rintro ⟨a, c, ha, hc⟩
    exact ⟨a, c.focus, by rw [← t.map_focus_cursorAt?, ha, Option.map_some], hc⟩
  · rintro ⟨a, u, ha, hu⟩
    rw [← t.map_focus_cursorAt?] at ha
    obtain ⟨c, hc, rfl⟩ := Option.map_eq_some_iff.mp ha
    exact ⟨a, c, hc, hu⟩

/-- The rows of logical lines are those noted by a search whose answer is always no. -/
theorem logicalRows_eq (s : Source) (t : Tree) (more : Nat) :
    logicalRows s t =
      ((((Search.run (fun _ _ => false) (2 * t.count + more) (.start t)).asked.filter
        startsLogicalLine).filterMap fun c => rowIfFirst? s s.rows c.focus).mergeSort
          (· ≤ ·)).eraseReps := by
  rw [Search.run_start_of_never]
  rfl

/-- A search of a tree, whatever it asks, is over after two steps for each node, and its cursor
never leaves the tree.  It asks about the nodes in the order of their addresses, which is the
preorder, and about each of them once: about all if every answer is no, and otherwise up to the
first for which it is yes.  So it finds something exactly if the answer is yes about some node; a
tree is rejected exactly if a statement of Python 2 or a wrong list of parameters stands anywhere in
it, and the rows of logical lines can be noted while a search asks in vain. -/
theorem search_in_preorder (t : Tree) :
    (InPreorder t.places ∧ (∀ a, a ∈ t.places ↔ ∃ u, t.at? a = some u) ∧
        t.places.map t.cursorAt? = t.cursors.map some) ∧
      (∀ (q : Question) (n : Nat), (Search.run q n (.start t)).Inside t) ∧
      (∀ (q : Question) (more : Nat),
        (∃ before c after, t.cursors = before ++ c :: after ∧ Refused q before ∧
            q before c = true ∧
            Search.run q (2 * t.count + more) (.start t) = ⟨before ++ [c], .ended true⟩) ∨
          Refused q t.cursors ∧
            Search.run q (2 * t.count + more) (.start t) = ⟨t.cursors, .ended false⟩) ∧
      (∀ (p : Cursor → Bool) (more : Nat),
        (Search.run (fun _ => p) (2 * t.count + more) (.start t)).stage = .ended (t.any p)) ∧
      (∀ p : Cursor → Bool, t.any p = true ↔ ∃ a c, t.cursorAt? a = some c ∧ p c = true) ∧
      (∀ more : Nat, Search.run (fun _ _ => false) (2 * t.count + more) (.start t) =
        ⟨t.cursors, .ended false⟩) ∧
      (rejectedConstruct t = true ↔ ∃ a u, t.at? a = some u ∧
        (u.kind = "print_statement" ∨ u.kind = "exec_statement" ∨
          (u.kind = "parameters" ∨ u.kind = "lambda_parameters") ∧
            requiredAfterDefault u = true)) ∧
      ∀ (s : Source) (more : Nat), logicalRows s t =
        ((((Search.run (fun _ _ => false) (2 * t.count + more) (.start t)).asked.filter
          startsLogicalLine).filterMap fun c => rowIfFirst? s s.rows c.focus).mergeSort
            (· ≤ ·)).eraseReps := by
  refine ⟨⟨t.inPreorder_located, fun a => Tree.mem_places, t.map_cursorAt?_places⟩,
    fun q n => Search.inside_run (Search.inside_start t) n, fun q more => Search.run_start q t more,
    fun p more => Search.stage_run_start p t more, fun p => Tree.any_iff,
    Search.run_start_of_never t, ?_, fun s more => logicalRows_eq s t more⟩
  rw [rejectedConstruct_iff]
  simp only [isRejected_iff]

end PythonStyle
