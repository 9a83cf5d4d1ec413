import PythonStyle.Checking.Files
import PythonStyle.Proofs.Pieces

/-!
# Newlines and lines

Before a text is checked its lines are made to end alike, by two replacements in turn.  The first of
them may bring a carriage return in front of a newline that it has just written, and the second may
not take the two for a pair.  Here the replacements are compared with a single scan that knows all
three ways to end a line, and the cut into lines is given by what the pieces look like.

Main definitions:

- `Text.scanNewlines`: one scan from left to right.
- `Text.CutsIntoLines`: what it means that pieces are the lines of a text.

Main results:

- Theorem `Text.normalizeNewlines_eq`: the two replacements do what the scan does.
- Theorem `Text.normalizeNewlines_append_iff`: where a text may be cut before its newlines are made
  alike.
- Theorem `Text.lines_eq_iff`: the lines of a text are the only pieces that look like lines.
- Theorem `newlines_by_one_scan`: these together, and what they mean for a check.
-/

namespace PythonStyle

namespace Text

/-! ## One scan -/

/-- Makes one newline of each carriage return, together with the newline behind it if there is one,
and copies everything else. -/
def scanNewlines : List Char → List Char
  | [] => []
  | '\r' :: '\n' :: rest => '\n' :: scanNewlines rest
  | c :: rest => (if c = '\r' then '\n' else c) :: scanNewlines rest

/-- A text starts with a pair if it is made of the pair and a rest. -/
theorem pair_prefix_iff {c : Char} {rest : List Char} :
    ['\r', '\n'] <+: c :: rest ↔ ∃ tail, c = '\r' ∧ rest = '\n' :: tail := by
  constructor
  · rintro ⟨tail, htail⟩
    obtain ⟨rfl, rfl⟩ := List.cons.inj htail
    exact ⟨tail, rfl, rfl⟩
  · rintro ⟨tail, rfl, rfl⟩
    exact ⟨tail, rfl⟩

/-- The two replacements do what the scan does. -/
theorem normalizeNewlines_eq (text : List Char) : normalizeNewlines text = scanNewlines text := by
  fun_induction scanNewlines text with
  | case1 => exact normalizeNewlines_nil
  | case2 rest ih => rw [normalizeNewlines_pair, ih]
  | case3 c rest hpair ih =>
      have hprefix : ¬ ['\r', '\n'] <+: c :: rest := by
        rw [pair_prefix_iff]
        rintro ⟨tail, rfl, rfl⟩
        exact hpair tail rfl rfl
      rw [normalizeNewlines_cons hprefix, ih]

/-- Where lines end with newlines alone, nothing changes. -/
theorem normalizeNewlines_of_not_mem {text : List Char} (h : '\r' ∉ text) :
    normalizeNewlines text = text := by
  have hkept : ∀ c ∈ text, (if c = '\r' then '\n' else c) = c := by
    intro c hc
    rw [if_neg]
    rintro rfl
    exact h hc
  rw [normalizeNewlines, replaceAll_of_not_mem h, List.map_congr_left hkept, List.map_id']

/-! ## Texts in two parts -/

/-- Whether a cut separates a carriage return from the newline that belongs to it. -/
def SplitsPair (first second : List Char) : Prop :=
  first.getLast? = some '\r' ∧ second.head? = some '\n'

/-- A cut that separates a pair separates it whatever stands in front of the pair. -/
theorem SplitsPair.of_rest {c : Char} {rest second : List Char} (h : SplitsPair rest second) :
    SplitsPair (c :: rest) second := by
  obtain ⟨hlast, hhead⟩ := h
  refine ⟨?_, hhead⟩
  rw [List.getLast?_cons, hlast]
  rfl

/-- No cut in front of a character other than a newline separates a pair. -/
theorem not_splitsPair_cons {c : Char} (hc : c ≠ '\n') (first rest : List Char) :
    ¬ SplitsPair first (c :: rest) :=
  fun h => hc (Option.some.inj h.2)

theorem normalizeNewlines_append {first second : List Char} (h : ¬ SplitsPair first second) :
    normalizeNewlines (first ++ second) = normalizeNewlines first ++ normalizeNewlines second := by
  rw [normalizeNewlines_eq first]
  fun_induction scanNewlines first with
  | case1 => rfl
  | case2 rest ih =>
      have hrest : ¬ SplitsPair rest second := fun hsplit => h hsplit.of_rest.of_rest
      rw [List.cons_append, List.cons_append, normalizeNewlines_pair, ih hrest, List.cons_append]
  | case3 c rest hpair ih =>
      have hrest : ¬ SplitsPair rest second := fun hsplit => h hsplit.of_rest
      -- A pair in front of the whole would be one of the first part, or the one that the cut
      -- separates.
      have hprefix : ¬ ['\r', '\n'] <+: c :: (rest ++ second) := by
        rw [pair_prefix_iff]
        rintro ⟨tail, rfl, htail⟩
        cases rest with
        | nil => exact h ⟨rfl, by rw [show second = '\n' :: tail from htail]; rfl⟩
        | cons d rest => exact hpair rest rfl (by rw [(List.cons.inj htail).1])
      rw [List.cons_append, normalizeNewlines_cons hprefix, ih hrest, List.cons_append]

/-- A cut through a pair leaves two newlines for the one. -/
theorem normalizeNewlines_append_ne {first second : List Char} (h : SplitsPair first second) :
    normalizeNewlines (first ++ second) ≠ normalizeNewlines first ++ normalizeNewlines second := by
  obtain ⟨hlast, hhead⟩ := h
  obtain ⟨start, rfl⟩ := List.getLast?_eq_some_iff.mp hlast
  obtain ⟨tail, rfl⟩ := List.head?_eq_some_iff.mp hhead
  have hfirst : normalizeNewlines (start ++ ['\r']) = normalizeNewlines start ++ ['\n'] := by
    rw [normalizeNewlines_append (not_splitsPair_cons (by decide) start []),
      normalizeNewlines_cons (by simp), normalizeNewlines_nil]
    rfl
  have hsecond : normalizeNewlines ('\n' :: tail) = '\n' :: normalizeNewlines tail :=
    normalizeNewlines_cons (by simp)
  have hwhole : normalizeNewlines (start ++ ['\r'] ++ '\n' :: tail) =
      normalizeNewlines start ++ '\n' :: normalizeNewlines tail := by
    rw [List.append_assoc, List.singleton_append,
      normalizeNewlines_append (not_splitsPair_cons (by decide) start _), normalizeNewlines_pair]
  intro heq
  have hlength := congrArg List.length heq
  rw [hfirst, hsecond, hwhole] at hlength
  simp only [List.length_append, List.length_cons, List.length_nil] at hlength
  omega

/-- A text may be cut before its newlines are made alike, but not through a pair. -/
theorem normalizeNewlines_append_iff {first second : List Char} :
    normalizeNewlines (first ++ second) = normalizeNewlines first ++ normalizeNewlines second ↔
      ¬ SplitsPair first second :=
  ⟨fun heq hsplit => normalizeNewlines_append_ne hsplit heq, normalizeNewlines_append⟩

/-! ## Lines -/

/-- Whether pieces are the lines of a text: together they are the text, none is empty, each has a
newline as its last character or nowhere, and all but the last have one. -/
structure CutsIntoLines (text : List Char) (pieces : List (List Char)) : Prop where
  flatten : pieces.flatten = text
  ne_nil : ∀ piece ∈ pieces, piece ≠ []
  inside : ∀ piece ∈ pieces, '\n' ∉ piece.dropLast
  ended : ∀ piece ∈ pieces.dropLast, piece.getLast? = some '\n'

namespace CutsIntoLines

variable {text line : List Char} {pieces more : List (List Char)} {c : Char}

/-- A newline in front is a line of its own. -/
theorem newline (h : CutsIntoLines text pieces) :
    CutsIntoLines ('\n' :: text) (['\n'] :: pieces) where
  flatten := by rw [List.flatten_cons, h.flatten]; rfl
  ne_nil := List.forall_mem_cons.mpr ⟨List.cons_ne_nil _ _, h.ne_nil⟩
  inside := List.forall_mem_cons.mpr ⟨List.not_mem_nil, h.inside⟩
  ended := by
    cases pieces with
    | nil => exact fun piece hpiece => nomatch hpiece
    | cons piece more => exact List.forall_mem_cons.mpr ⟨rfl, h.ended⟩

/-- Any other character in front belongs to the first line. -/
theorem cons (h : CutsIntoLines text (line :: more)) (hc : c ≠ '\n') :
    CutsIntoLines (c :: text) ((c :: line) :: more) := by
  obtain ⟨hline, hmore⟩ := List.forall_mem_cons.mp h.ne_nil
  obtain ⟨hinside, hothers⟩ := List.forall_mem_cons.mp h.inside
  have hnewline : '\n' ∉ (c :: line).dropLast := by
    rw [List.dropLast_cons_of_ne_nil hline, List.mem_cons, not_or]
    exact ⟨hc.symm, hinside⟩
  refine ⟨congrArg (c :: ·) h.flatten, List.forall_mem_cons.mpr ⟨List.cons_ne_nil _ _, hmore⟩,
    List.forall_mem_cons.mpr ⟨hnewline, hothers⟩, ?_⟩
  cases more with
  | nil => exact fun piece hpiece => nomatch hpiece
  | cons piece more =>
      obtain ⟨hlast, hended⟩ := List.forall_mem_cons.mp h.ended
      refine List.forall_mem_cons.mpr ⟨?_, hended⟩
      rw [List.getLast?_cons, hlast]
      rfl

/-- A character alone is a line. -/
theorem singleton (c : Char) : CutsIntoLines [c] [[c]] where
  flatten := rfl
  ne_nil := by simp
  inside := by simp
  ended := fun piece hpiece => nomatch hpiece

end CutsIntoLines

/-- The lines of a text look like lines. -/
theorem cutsIntoLines_lines (text : List Char) : CutsIntoLines text (lines text) := by
  induction text with
  | nil => exact ⟨rfl, by simp, by simp, by simp⟩
  | cons c rest ih =>
      rw [lines]
      split
      · next hc => exact hc ▸ ih.newline
      · next hc =>
          split
          · next hnil =>
              rw [hnil] at ih
              rw [← ih.flatten]
              exact .singleton c
          · next line more hlines => exact (hlines ▸ ih).cons hc

/-- A text that has a newline as its last character or nowhere is one line. -/
theorem lines_eq_singleton {line : List Char} (hne : line ≠ []) (hinside : '\n' ∉ line.dropLast) :
    lines line = [line] := by
  induction line with
  | nil => exact absurd rfl hne
  | cons c rest ih =>
      cases rest with
      | nil =>
          rw [lines]
          split <;> rfl
      | cons d rest =>
          rw [List.dropLast_cons_of_ne_nil (List.cons_ne_nil _ _), List.mem_cons, not_or] at hinside
          rw [lines, if_neg (Ne.symm hinside.1), ih (List.cons_ne_nil _ _) hinside.2]

/-- The lines of a text are the only pieces that look like lines. -/
theorem lines_eq_iff {text : List Char} {pieces : List (List Char)} :
    lines text = pieces ↔ CutsIntoLines text pieces := by
  constructor
  · rintro rfl
    exact cutsIntoLines_lines text
  · intro h
    induction pieces generalizing text with
    | nil => rw [← h.flatten]; rfl
    | cons piece more ih =>
        obtain ⟨hne, hothers⟩ := List.forall_mem_cons.mp h.ne_nil
        obtain ⟨hinside, hinsides⟩ := List.forall_mem_cons.mp h.inside
        have hpiece : lines piece = [piece] := lines_eq_singleton hne hinside
        cases more with
        | nil => rwa [← h.flatten, List.flatten_cons, List.flatten_nil, List.append_nil]
        | cons next more =>
            obtain ⟨hlast, hended⟩ := List.forall_mem_cons.mp h.ended
            have hmore : lines (next :: more).flatten = next :: more :=
              ih ⟨rfl, hothers, hinsides, hended⟩
            rw [← h.flatten, List.flatten_cons, lines_append (.inr hlast), hpiece, hmore]
            rfl

end Text

open Text

/-- The two replacements that make newlines alike do what one scan from left to right does.  They
leave no carriage return, so that a second time changes nothing, and they may be applied to the
parts of a text, exactly if the cut does not separate a carriage return from a newline.  The lines
of a text are the one way to cut it into pieces that look like lines.  A check sees nothing of a
text but what the scan makes of it. -/
theorem newlines_by_one_scan :
    (∀ text, normalizeNewlines text = scanNewlines text) ∧
      (∀ text, '\r' ∉ normalizeNewlines text) ∧
      (∀ text, normalizeNewlines (normalizeNewlines text) = normalizeNewlines text) ∧
      (∀ first second,
        normalizeNewlines (first ++ second) = normalizeNewlines first ++ normalizeNewlines second ↔
          ¬ SplitsPair first second) ∧
      (∀ text pieces, lines text = pieces ↔ CutsIntoLines text pieces) ∧
      ∀ parser path text other now, scanNewlines text.toList = scanNewlines other.toList →
        checkSource parser path text now = checkSource parser path other now := by
  refine ⟨normalizeNewlines_eq, return_not_mem_normalizeNewlines, fun text => ?_,
    fun _ _ => normalizeNewlines_append_iff, fun _ _ => lines_eq_iff, ?_⟩
  · exact normalizeNewlines_of_not_mem (return_not_mem_normalizeNewlines text)
  · intro parser path text other now hscan
    have hnormal : normalizeNewlines text.toList = normalizeNewlines other.toList := by
      rw [normalizeNewlines_eq, normalizeNewlines_eq, hscan]
    simp only [checkSource, hnormal]

/-- Two carriage returns in front of a newline end two lines, and one at the end of the text ends
one. -/
theorem newlines_by_one_scan_mixed :
    scanNewlines "x;\r\r\ny = 1\r".toList = scanNewlines "x;\n\ny = 1\n".toList ∧
      ∀ parser now, checkSource parser "a.py" "x;\r\r\ny = 1\r" now =
        checkSource parser "a.py" "x;\n\ny = 1\n" now := by
  have hscan : scanNewlines "x;\r\r\ny = 1\r".toList = scanNewlines "x;\n\ny = 1\n".toList := by
    decide
  obtain ⟨-, -, -, -, -, hcheck⟩ := newlines_by_one_scan
  exact ⟨hscan, fun parser now => hcheck parser "a.py" _ _ now hscan⟩

end PythonStyle
