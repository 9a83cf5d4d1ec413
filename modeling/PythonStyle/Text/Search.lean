/-!
# Searching text

Main definitions:

- `afterEach`: what follows each occurrence of a pattern.
- `occurs`: whether a pattern occurs.
- `replaceAll`: replaces every occurrence of a pattern, from left to right.
- `after`: what follows the first character of a class.

Main results:

- `mem_afterEach` and `occurs_iff` say where a pattern occurs, without a scan.
- `suffix_after_iff` says what stands behind a character.
- `infix_append_iff` and `append_infix_iff` say when a pattern cannot reach out of a text.
- `replaceAll_append` and `replaceAll_cons` are the two steps of a replacement.
- `replaceAll_eq_self_iff` says when a replacement changes nothing.
-/

namespace PythonStyle.Text

/-! ## Occurrences -/

/-- What follows each occurrence of a pattern, from left to right.  Occurrences may
overlap. -/
def afterEach (pattern : List Char) : List Char → List (List Char)
  | [] => if pattern.isEmpty then [[]] else []
  | c :: rest =>
    (if pattern.isPrefixOf (c :: rest) then [(c :: rest).drop pattern.length] else []) ++
      afterEach pattern rest

/-- Something follows an occurrence exactly if the text is made of a beginning, the
pattern and that. -/
theorem mem_afterEach {pattern text tail : List Char} :
    tail ∈ afterEach pattern text ↔ ∃ start, text = start ++ (pattern ++ tail) := by
  induction text with
  | nil =>
    cases pattern with
    | nil => simp [afterEach, eq_comm]
    | cons p ps => simp [afterEach]
  | cons c rest ih =>
    rw [afterEach, List.mem_append, ih]
    constructor
    · rintro (h | ⟨start, h⟩)
      · split at h
        · rename_i hp
          obtain ⟨more, hm⟩ := List.isPrefixOf_iff_prefix.1 hp
          rw [List.mem_singleton] at h
          subst h
          exact ⟨[], by simp [← hm]⟩
        · simp at h
      · exact ⟨c :: start, by simp [h]⟩
    · rintro ⟨start, h⟩
      cases start with
      | nil =>
        left
        rw [List.nil_append] at h
        have hp : pattern.isPrefixOf (c :: rest) = true :=
          List.isPrefixOf_iff_prefix.2 ⟨tail, h.symm⟩
        simp [h]
      | cons d start =>
        right
        exact ⟨start, (List.cons.inj h).2⟩

/-- Whether a pattern occurs in a text. -/
def occurs (pattern text : List Char) : Bool :=
  !(afterEach pattern text).isEmpty

/-- A pattern occurs in a text exactly if the text contains it as one piece. -/
theorem occurs_iff {pattern text : List Char} : occurs pattern text = true ↔ pattern <:+: text := by
  rw [occurs, Bool.not_eq_true', List.isEmpty_eq_false_iff_exists_mem]
  constructor
  · rintro ⟨tail, h⟩
    obtain ⟨start, h⟩ := mem_afterEach.1 h
    exact ⟨start, tail, by rw [h, List.append_assoc]⟩
  · rintro ⟨start, tail, h⟩
    exact ⟨tail, mem_afterEach.2 ⟨start, by rw [← h, List.append_assoc]⟩⟩

/-! ## What stands behind a character -/

/-- What follows the first character equal to a given one; nothing if there is none.  The text may
be one of bytes. -/
def after {α : Type} [BEq α] (c : α) (text : List α) : List α :=
  (text.dropWhile (· != c)).drop 1

section After

variable {α : Type} [BEq α] {c : α}

/-- What follows a character of a text is part of the text. -/
theorem mem_of_mem_after {d : α} {text : List α} (h : d ∈ after c text) : d ∈ text :=
  (List.dropWhile_suffix _).subset (List.mem_of_mem_drop h)

variable [LawfulBEq α]

/-- Nothing follows a character that is not there. -/
theorem after_of_not_mem {text : List α} (h : c ∉ text) : after c text = [] := by
  have hall : ∀ d ∈ text, (d != c) = true := fun d hd => bne_iff_ne.mpr fun hdc => h (hdc ▸ hd)
  rw [after, ← List.append_nil text, List.dropWhile_append_of_pos hall]
  rfl

/-- What follows a character where it stands first. -/
theorem after_append {start : List α} (h : c ∉ start) (tail : List α) :
    after c (start ++ c :: tail) = tail := by
  have hall : ∀ d ∈ start, (d != c) = true := fun d hd => bne_iff_ne.mpr fun hdc => h (hdc ▸ hd)
  rw [after, List.dropWhile_append_of_pos hall, List.dropWhile_cons_of_neg (by simp)]
  rfl

end After

/-- What is in a list stands somewhere for the last time. -/
theorem exists_append_of_mem {α : Type} {x : α} {xs : List α} (h : x ∈ xs) :
    ∃ before behind, xs = before ++ x :: behind ∧ x ∉ behind := by
  obtain ⟨start, tail, hreverse, hstart⟩ := List.eq_append_cons_of_mem (List.mem_reverse.mpr h)
  refine ⟨tail.reverse, start.reverse, ?_, by simpa using hstart⟩
  rw [← List.reverse_inj, hreverse]
  simp

/-- A text that is not empty stands behind the first of some characters exactly if it stands behind
one of them. -/
theorem suffix_after_iff {c : Char} {tail text : List Char} (h : tail ≠ []) :
    tail <:+ after c text ↔ ∃ before inside, text = before ++ c :: (inside ++ tail) := by
  constructor
  · intro htail
    by_cases hc : c ∈ text
    · obtain ⟨start, rest, rfl, hstart⟩ := List.eq_append_cons_of_mem hc
      rw [after_append hstart] at htail
      obtain ⟨inside, rfl⟩ := htail
      exact ⟨start, inside, rfl⟩
    · rw [after_of_not_mem hc] at htail
      exact absurd (List.suffix_nil.mp htail) h
  · rintro ⟨before, inside, rfl⟩
    by_cases hc : c ∈ before
    · obtain ⟨start, rest, rfl, hstart⟩ := List.eq_append_cons_of_mem hc
      rw [List.append_assoc, List.cons_append, after_append hstart]
      exact ⟨rest ++ c :: inside, by simp⟩
    · rw [after_append hc]
      exact List.suffix_append inside tail

/-- A text that starts with a character that is not there does not occur in it, nor across its
end. -/
theorem infix_append_iff {first : Char} {start : List Char} (h : first ∉ start)
    (pattern text : List Char) :
    first :: pattern <:+: start ++ text ↔ first :: pattern <:+: text := by
  induction start with
  | nil => rfl
  | cons c start ih =>
      rw [List.mem_cons, not_or] at h
      have hstart : ¬ first :: pattern <+: c :: (start ++ text) :=
        fun hstart => h.1 (List.cons_prefix_cons.mp hstart).1
      rw [List.cons_append, List.infix_cons_iff, ih h.2]
      constructor
      · intro hoccurs
        exact hoccurs.resolve_left hstart
      · intro hoccurs
        exact Or.inr hoccurs

theorem append_infix_iff {last : Char} {tail : List Char} (h : last ∉ tail)
    (pattern text : List Char) :
    pattern ++ [last] <:+: text ++ tail ↔ pattern ++ [last] <:+: text := by
  have hreverse : last ∉ tail.reverse := by rwa [List.mem_reverse]
  have hpattern : (pattern ++ [last]).reverse = last :: pattern.reverse := List.reverse_concat
  have hback := infix_append_iff hreverse pattern.reverse text.reverse
  rwa [← hpattern, ← List.reverse_append, List.reverse_infix, List.reverse_infix] at hback

/-! ## Replacing -/

/-- Replaces each occurrence of a pattern by another text, from left to right and
without overlap.  The empty pattern is replaced nowhere. -/
def replaceAll (pattern new : List Char) : List Char → List Char
  | [] => []
  | c :: rest =>
    if pattern.isPrefixOf (c :: rest) ∧ pattern ≠ [] then
      new ++ replaceAll pattern new (rest.drop (pattern.length - 1))
    else c :: replaceAll pattern new rest
termination_by text => text.length
decreasing_by all_goals simp only [List.length_drop, List.length_cons]; omega

@[simp] theorem replaceAll_nil (pattern new : List Char) : replaceAll pattern new [] = [] := by
  rw [replaceAll]

/-- An occurrence in front is replaced, and the search goes on behind it. -/
theorem replaceAll_append {pattern : List Char} (new : List Char) (h : pattern ≠ [])
    (tail : List Char) :
    replaceAll pattern new (pattern ++ tail) = new ++ replaceAll pattern new tail := by
  cases pattern with
  | nil => exact absurd rfl h
  | cons p ps =>
    have hp : (p :: ps).isPrefixOf (p :: (ps ++ tail)) = true :=
      List.isPrefixOf_iff_prefix.2 ⟨tail, rfl⟩
    rw [List.cons_append, replaceAll, if_pos ⟨hp, h⟩]
    simp

/-- A character where no occurrence starts is kept. -/
theorem replaceAll_cons {pattern : List Char} (new : List Char) {c : Char} {rest : List Char}
    (h : ¬ pattern <+: c :: rest) :
    replaceAll pattern new (c :: rest) = c :: replaceAll pattern new rest := by
  rw [replaceAll, if_neg]
  exact fun h' => h (List.isPrefixOf_iff_prefix.1 h'.1)

/-- A replacement brings in nothing but the new text. -/
theorem mem_of_mem_replaceAll {pattern new text : List Char} {c : Char}
    (h : c ∈ replaceAll pattern new text) : c ∈ new ∨ c ∈ text := by
  fun_induction replaceAll pattern new text with
  | case1 => exact .inr h
  | case2 d rest hpattern ih =>
      rcases List.mem_append.mp h with h | h
      · exact .inl h
      · exact (ih h).imp_right fun h => List.mem_cons_of_mem d (List.mem_of_mem_drop h)
  | case3 d rest hpattern ih =>
      rcases List.mem_cons.mp h with rfl | h
      · exact .inr List.mem_cons_self
      · exact (ih h).imp_right (List.mem_cons_of_mem d)

/-- Where the first character of a pattern does not stand, nothing is replaced. -/
theorem replaceAll_append_of_not_mem {first : Char} {start : List Char} (h : first ∉ start)
    (pattern new rest : List Char) :
    replaceAll (first :: pattern) new (start ++ rest) =
      start ++ replaceAll (first :: pattern) new rest := by
  induction start with
  | nil => rfl
  | cons c start ih =>
      obtain ⟨hc, hstart⟩ : first ≠ c ∧ first ∉ start := by simpa using h
      have hprefix : ¬ (first :: pattern) <+: c :: (start ++ rest) :=
        fun hprefix => hc (List.cons_prefix_cons.mp hprefix).1
      rw [List.cons_append, replaceAll_cons new hprefix, ih hstart, List.cons_append]

theorem replaceAll_of_not_mem {first : Char} {text : List Char} (h : first ∉ text)
    (pattern new : List Char) : replaceAll (first :: pattern) new text = text := by
  simpa using replaceAll_append_of_not_mem h pattern new []

/-- Each replacement makes a text longer or shorter by the difference of the two. -/
theorem exists_length_replaceAll (pattern new text : List Char) :
    ∃ n, (replaceAll pattern new text).length + n * pattern.length =
      text.length + n * new.length := by
  fun_induction replaceAll pattern new text with
  | case1 => exact ⟨0, by simp⟩
  | case2 c rest hpattern ih =>
      rcases ih with ⟨n, hn⟩
      refine ⟨n + 1, ?_⟩
      have hlength := (List.isPrefixOf_iff_prefix.mp hpattern.1).length_le
      have hpositive := List.length_pos_iff.mpr hpattern.2
      simp only [List.length_append, List.length_drop, List.length_cons, Nat.add_mul] at *
      omega
  | case3 c rest hpattern ih =>
      rcases ih with ⟨n, hn⟩
      refine ⟨n, ?_⟩
      simp only [List.length_cons]
      omega

/-- A replacement changes a text exactly if the pattern occurs and is not the new text. -/
theorem replaceAll_eq_self_iff {pattern : List Char} (h : pattern ≠ []) (new text : List Char) :
    replaceAll pattern new text = text ↔ ¬ pattern <:+: text ∨ new = pattern := by
  fun_induction replaceAll pattern new text with
  | case1 => simp [h]
  | case2 c rest hpattern ih =>
      rcases List.isPrefixOf_iff_prefix.mp hpattern.1 with ⟨tail, htext⟩
      have hoccurs : pattern <:+: c :: rest := ⟨[], tail, htext⟩
      have htail : rest.drop (pattern.length - 1) = tail := by
        have hdrop := congrArg (List.drop pattern.length) htext
        rw [List.drop_left] at hdrop
        rw [hdrop, ← List.drop_succ_cons (a := c), Nat.sub_add_cancel (List.length_pos_iff.mpr h)]
      rw [htail] at ih ⊢
      rw [← htext]
      constructor
      · intro heq
        -- The lengths agree only if the two texts have the same length, and then they stand at the
        -- same place.
        rcases exists_length_replaceAll pattern new tail with ⟨n, hn⟩
        have hlengths := congrArg List.length heq
        rw [List.length_append, List.length_append] at hlengths
        have hsame : (n + 1) * new.length = (n + 1) * pattern.length := by
          rw [Nat.add_one_mul, Nat.add_one_mul]
          omega
        right
        exact (List.append_inj heq (Nat.eq_of_mul_eq_mul_left (Nat.succ_pos n) hsame)).1
      · intro hsame
        have hnew : new = pattern := hsame.resolve_left (not_not_intro (htext ▸ hoccurs))
        rw [ih.mpr (Or.inr hnew), hnew]
  | case3 c rest hpattern ih =>
      have hstart : ¬ pattern <+: c :: rest :=
        fun hstart => hpattern ⟨List.isPrefixOf_iff_prefix.mpr hstart, h⟩
      rw [List.cons.injEq, ih, List.infix_cons_iff]
      simp [hstart]

end PythonStyle.Text
