import PythonStyle.Text.Shape

/-!
# Shapes as patterns

A shape is cut out of a text from left to right, each character by the first slot that takes it.
As a pattern a shape says less: a text has it if the text can be cut into pieces in any way such
that each piece fills its slot.  Here the two are compared.  No choice of pieces gets further than
the cut, since every slot may stay empty.

Main definitions:

- `Slot.Fills`: whether a piece of a text fills a slot.
- `Shape.Matches`: whether a text has a shape as a pattern.
- `Shape.tries`: what a search with backtracking comes upon, in its order.

Main results:

- Theorem `Shape.matches_append_iff`: shapes one behind the other.
- Theorem `Shape.matches_take`: what is cut out of a text has the shape.
- Theorem `Shape.prefix_take`: nothing longer at the start of the text has it.
- Theorem `Shape.take_append_of_matches`: a text with the shape is cut out exactly, if no slot
  takes what follows it.
- Theorem `Shape.fits_iff_matches`: a text fits a shape exactly if it has it as a pattern.
- Theorem `Shape.mem_tries`: a search comes upon all that the text starts with and that has the
  shape.
- Theorem `Shape.head?_tries`: what it comes upon first is the cut.
-/

namespace PythonStyle.Text

/-! ## Slots -/

/-- Whether a piece of a text fills a slot. -/
def Slot.Fills : Slot → List Char → Prop
  | optional accepts, piece => piece.length ≤ 1 ∧ ∀ c ∈ piece, accepts c = true
  | many accepts, piece => ∀ c ∈ piece, accepts c = true

namespace Slot

variable {slot : Slot} {piece : List Char} {c : Char}

theorem fills_nil (slot : Slot) : slot.Fills [] := by
  cases slot <;> simp [Fills]

/-- Each character of a piece is one that the slot takes. -/
theorem Fills.takes (h : slot.Fills piece) (hc : c ∈ piece) : slot.takes c = true := by
  cases slot with
  | optional accepts => exact h.2 c hc
  | many accepts => exact h c hc

/-- A slot is also filled by what is left of a piece without its first character. -/
theorem Fills.of_cons (h : slot.Fills (c :: piece)) : slot.Fills piece := by
  cases slot with
  | optional accepts =>
      obtain ⟨hlength, haccepts⟩ := h
      rw [List.length_cons] at hlength
      exact ⟨by omega, fun d hd => haccepts d (List.mem_cons_of_mem c hd)⟩
  | many accepts => exact fun d hd => h d (List.mem_cons_of_mem c hd)

end Slot

/-! ## Shapes -/

namespace Shape

/-- Whether a text has a shape: it can be cut into pieces, one for each slot, that fill the
slots. -/
def Matches : Shape → List Char → Prop
  | [], text => text = []
  | slot :: shape, text =>
      ∃ piece rest, text = piece ++ rest ∧ slot.Fills piece ∧ Matches shape rest

variable {shape : Shape} {slot : Slot} {accepts : Char → Bool} {text word : List Char} {c : Char}

theorem matches_nil (shape : Shape) : Matches shape [] := by
  induction shape with
  | nil => rfl
  | cons slot shape ih => exact ⟨[], [], rfl, slot.fills_nil, ih⟩

/-- A slot may stay empty. -/
theorem Matches.skip (slot : Slot) (h : Matches shape text) : Matches (slot :: shape) text :=
  ⟨[], text, rfl, slot.fills_nil, h⟩

/-- A text has a shape also without its first character. -/
theorem Matches.of_cons (h : Matches shape (c :: text)) : Matches shape text := by
  induction shape with
  | nil => cases h
  | cons slot shape ih =>
      obtain ⟨piece, rest, htext, hpiece, hrest⟩ := h
      cases piece with
      | nil =>
          rw [List.nil_append] at htext
          exact (ih (htext ▸ hrest)).skip slot
      | cons d piece =>
          obtain ⟨rfl, rfl⟩ := List.cons.inj htext
          exact ⟨piece, rest, rfl, hpiece.of_cons, hrest⟩

/-- Each character of a text with a shape is one that a slot takes. -/
theorem Matches.takes (h : Matches shape text) (hc : c ∈ text) :
    ∃ slot ∈ shape, slot.takes c = true := by
  induction shape generalizing text with
  | nil =>
      rw [show text = [] from h] at hc
      cases hc
  | cons slot shape ih =>
      obtain ⟨piece, rest, rfl, hpiece, hrest⟩ := h
      rcases List.mem_append.mp hc with hc | hc
      · exact ⟨slot, List.mem_cons_self, hpiece.takes hc⟩
      · obtain ⟨other, hother, htakes⟩ := ih hrest hc
        exact ⟨other, List.mem_cons_of_mem slot hother, htakes⟩

/-- A text of a shape in two parts has two parts too. -/
theorem matches_append_iff {front behind : Shape} :
    Matches (front ++ behind) text ↔
      ∃ start tail, text = start ++ tail ∧ Matches front start ∧ Matches behind tail := by
  induction front generalizing text with
  | nil =>
      constructor
      · intro h
        exact ⟨[], text, rfl, rfl, h⟩
      · rintro ⟨start, tail, rfl, rfl, h⟩
        exact h
  | cons slot front ih =>
      constructor
      · rintro ⟨piece, rest, rfl, hpiece, hrest⟩
        obtain ⟨start, tail, rfl, hstart, htail⟩ := ih.mp hrest
        exact ⟨piece ++ start, tail, (List.append_assoc ..).symm,
          ⟨piece, start, rfl, hpiece, hstart⟩, htail⟩
      · rintro ⟨start, tail, rfl, ⟨piece, start, rfl, hpiece, hstart⟩, htail⟩
        have hrest : Matches (front ++ behind) (start ++ tail) :=
          ih.mpr ⟨start, tail, rfl, hstart, htail⟩
        exact ⟨piece, start ++ tail, List.append_assoc .., hpiece, hrest⟩

theorem matches_many_iff : Matches [.many accepts] text ↔ ∀ c ∈ text, accepts c = true := by
  constructor
  · rintro ⟨piece, rest, rfl, hpiece, rfl⟩
    rwa [List.append_nil]
  · intro h
    exact ⟨text, [], (List.append_nil text).symm, h, rfl⟩

/-- The first character of a text stands in the first slot, or that slot is empty. -/
theorem matches_optional_cons_iff :
    Matches (.optional accepts :: shape) (c :: text) ↔
      (accepts c = true ∧ Matches shape text) ∨ Matches shape (c :: text) := by
  constructor
  · rintro ⟨piece, rest, htext, ⟨hlength, haccepts⟩, hrest⟩
    cases piece with
    | nil => exact .inr (htext ▸ hrest)
    | cons d piece =>
        obtain rfl : piece = [] := by simpa using hlength
        obtain ⟨rfl, rfl⟩ := List.cons.inj htext
        exact .inl ⟨haccepts c List.mem_cons_self, hrest⟩
  · rintro (⟨hc, hrest⟩ | hrest)
    · exact ⟨[c], text, rfl, ⟨Nat.le_refl 1, by simpa using hc⟩, hrest⟩
    · exact hrest.skip _

/-- As for an optional character, but the slot may go on. -/
theorem matches_many_cons_iff :
    Matches (.many accepts :: shape) (c :: text) ↔
      (accepts c = true ∧ Matches (.many accepts :: shape) text) ∨ Matches shape (c :: text) := by
  constructor
  · rintro ⟨piece, rest, htext, haccepts, hrest⟩
    cases piece with
    | nil => exact .inr (htext ▸ hrest)
    | cons d piece =>
        obtain ⟨rfl, rfl⟩ := List.cons.inj htext
        refine .inl ⟨haccepts c List.mem_cons_self, piece, rest, rfl, fun d hd => ?_, hrest⟩
        exact haccepts d (List.mem_cons_of_mem c hd)
  · rintro (⟨hc, piece, rest, rfl, haccepts, hrest⟩ | hrest)
    · exact ⟨c :: piece, rest, rfl, List.forall_mem_cons.mpr ⟨hc, haccepts⟩, hrest⟩
    · exact hrest.skip _

/-- Two slots for any number of characters of one class, one behind the other, say no more than
one. -/
theorem matches_many_many_iff :
    Matches (.many accepts :: .many accepts :: shape) text ↔
      Matches (.many accepts :: shape) text := by
  constructor
  · rintro ⟨piece, _, rfl, hpiece, more, rest, rfl, hmore, hrest⟩
    refine ⟨piece ++ more, rest, (List.append_assoc ..).symm, fun c hc => ?_, hrest⟩
    rcases List.mem_append.mp hc with hc | hc
    · exact hpiece c hc
    · exact hmore c hc
  · intro h
    exact h.skip _

/-- Some optional characters in a row are so many at most. -/
theorem matches_replicate_optional_iff {most : Nat} :
    Matches (List.replicate most (.optional accepts)) text ↔
      text.length ≤ most ∧ ∀ c ∈ text, accepts c = true := by
  induction most generalizing text with
  | zero =>
      rw [List.replicate_zero, Nat.le_zero, List.length_eq_zero_iff]
      exact ⟨fun h => ⟨h, by rw [show text = [] from h]; simp⟩, And.left⟩
  | succ most ih =>
      rw [List.replicate_succ]
      cases text with
      | nil => exact iff_of_true (matches_nil _) (by simp)
      | cons c text =>
          rw [matches_optional_cons_iff, ih, ih, List.length_cons, List.forall_mem_cons]
          constructor
          · rintro (⟨hc, hlength, htext⟩ | ⟨hlength, hall⟩)
            · exact ⟨Nat.succ_le_succ hlength, hc, htext⟩
            · exact ⟨Nat.le_succ_of_le hlength, hall⟩
          · rintro ⟨hlength, hc, htext⟩
            exact .inl ⟨hc, Nat.le_of_succ_le_succ hlength, htext⟩

/-! ## The cut -/

/-- What is cut out of a text has the shape. -/
theorem matches_take (shape : Shape) (text : List Char) : Matches shape (take shape text) := by
  fun_induction take shape text with
  | case1 => rfl
  | case2 shape => exact matches_nil shape
  | case3 accepts shape c text hc ih => exact matches_optional_cons_iff.mpr (.inl ⟨hc, ih⟩)
  | case5 accepts shape c text hc ih => exact matches_many_cons_iff.mpr (.inl ⟨hc, ih⟩)
  | case4 accepts shape c text hc ih | case6 accepts shape c text hc ih => exact ih.skip _

/-- The second of two such slots takes nothing that the first would not. -/
theorem take_many_many (accepts : Char → Bool) (shape : Shape) (text : List Char) :
    take (.many accepts :: .many accepts :: shape) text = take (.many accepts :: shape) text := by
  induction text with
  | nil => simp [take]
  | cons c text ih =>
      by_cases hc : accepts c = true
      · rw [take, if_pos hc, ih, take, if_pos hc]
      · rw [take, if_neg hc]

/-- Whatever a text starts with, if it has the shape, is no longer than the cut. -/
theorem prefix_take (hword : Matches shape word) (hstart : word <+: text) :
    word <+: take shape text := by
  -- Whenever the first slot takes a character, it does no harm to have given it to that slot: the
  -- slots behind it, which might have taken it, still take what follows it.
  fun_induction take shape text generalizing word with
  | case1 =>
      have hnil : word = [] := hword
      exact hnil ▸ List.nil_prefix
  | case2 => exact hstart
  | case3 accepts shape c text hc ih =>
      cases word with
      | nil => exact List.nil_prefix
      | cons d word =>
          obtain ⟨rfl, hrest⟩ := List.cons_prefix_cons.mp hstart
          refine List.cons_prefix_cons.mpr ⟨rfl, ih ?_ hrest⟩
          rcases matches_optional_cons_iff.mp hword with ⟨-, hword⟩ | hword
          · exact hword
          · exact hword.of_cons
  | case4 accepts shape c text hc ih =>
      cases word with
      | nil => exact List.nil_prefix
      | cons d word =>
          obtain rfl : d = c := (List.cons_prefix_cons.mp hstart).1
          rcases matches_optional_cons_iff.mp hword with ⟨hd, -⟩ | hword
          · exact absurd hd hc
          · exact ih hword hstart
  | case5 accepts shape c text hc ih =>
      cases word with
      | nil => exact List.nil_prefix
      | cons d word =>
          obtain ⟨rfl, hrest⟩ := List.cons_prefix_cons.mp hstart
          refine List.cons_prefix_cons.mpr ⟨rfl, ih ?_ hrest⟩
          rcases matches_many_cons_iff.mp hword with ⟨-, hword⟩ | hword
          · exact hword
          · exact hword.of_cons.skip _
  | case6 accepts shape c text hc ih =>
      cases word with
      | nil => exact List.nil_prefix
      | cons d word =>
          obtain rfl : d = c := (List.cons_prefix_cons.mp hstart).1
          rcases matches_many_cons_iff.mp hword with ⟨hd, -⟩ | hword
          · exact absurd hd hc
          · exact ih hword hstart

/-- A text with a shape is cut out exactly, if no slot takes what follows it. -/
theorem take_append_of_matches (hword : Matches shape word) {tail : List Char}
    (htail : ∀ c ∈ tail.head?, ∀ slot ∈ shape, slot.takes c = false) :
    take shape (word ++ tail) = word := by
  obtain ⟨more, hmore⟩ := prefix_take hword (List.prefix_append word tail)
  have hstart : word ++ more <+: word ++ tail := hmore ▸ take_prefix shape (word ++ tail)
  rw [List.prefix_append_right_inj] at hstart
  cases more with
  | nil => rw [← hmore, List.append_nil]
  | cons c more =>
      -- The cut would go on with the first character behind the word, which no slot takes.
      obtain ⟨last, rfl⟩ := hstart
      have hmem : c ∈ take shape (word ++ (c :: more ++ last)) := by
        rw [← hmore]
        exact List.mem_append_right word List.mem_cons_self
      obtain ⟨slot, hslot, htakes⟩ := takes_of_mem_take hmem
      rw [htail c rfl slot hslot] at htakes
      cases htakes

theorem rest_append_of_matches (hword : Matches shape word) {tail : List Char}
    (htail : ∀ c ∈ tail.head?, ∀ slot ∈ shape, slot.takes c = false) :
    rest shape (word ++ tail) = tail := by
  rw [rest, take_append_of_matches hword htail, List.drop_left]

/-- A text fits a shape exactly if it has it as a pattern. -/
theorem fits_iff_matches : fits shape text = true ↔ Matches shape text := by
  rw [fits_iff]
  constructor
  · intro h
    exact h ▸ matches_take shape text
  · intro h
    have htail : ∀ c ∈ ([] : List Char).head?, ∀ slot ∈ shape, slot.takes c = false := by simp
    have htake := take_append_of_matches h htail
    rwa [List.append_nil] at htake

/-! ## Backtracking -/

/-- The beginnings of a text that have a shape, in the order in which a search with backtracking
comes upon them.  A slot takes a character if it can; only afterwards the search goes back and
leaves the character to the slots behind it. -/
def tries : Shape → List Char → List (List Char)
  | [], _ => [[]]
  | _ :: shape, [] => tries shape []
  | .optional accepts :: shape, c :: text =>
      (if accepts c then (tries shape text).map (c :: ·) else []) ++ tries shape (c :: text)
  | .many accepts :: shape, c :: text =>
      (if accepts c then (tries (.many accepts :: shape) text).map (c :: ·) else []) ++
        tries shape (c :: text)
termination_by shape text => shape.length + text.length

/-- A search that gives a character to a slot, and then goes on with what that slot leaves of the
shape, or else gives it to a slot behind. -/
theorem mem_tries_cons {next : Shape} {given left : List (List Char)}
    (hslot : ∀ word, Matches (slot :: shape) (c :: word) ↔
      (accepts c = true ∧ Matches next word) ∨ Matches shape (c :: word))
    (hgiven : ∀ word, word ∈ given ↔ word <+: text ∧ Matches next word)
    (hleft : ∀ word, word ∈ left ↔ word <+: c :: text ∧ Matches shape word) :
    word ∈ (if accepts c then given.map (c :: ·) else []) ++ left ↔
      word <+: c :: text ∧ Matches (slot :: shape) word := by
  have htaken : word ∈ (if accepts c then given.map (c :: ·) else []) ↔
      ∃ rest ∈ given, accepts c = true ∧ c :: rest = word := by
    split
    · next hc => simp [hc]
    · next hc => simp [hc]
  rw [List.mem_append, htaken, hleft]
  cases word with
  | nil => simp [matches_nil]
  | cons d word =>
      rw [List.cons_prefix_cons]
      constructor
      · rintro (⟨rest, hrest, hc, h⟩ | ⟨⟨rfl, hfront⟩, hword⟩)
        · obtain ⟨rfl, rfl⟩ := List.cons.inj h
          obtain ⟨hfront, hword⟩ := (hgiven rest).mp hrest
          exact ⟨⟨rfl, hfront⟩, (hslot rest).mpr (.inl ⟨hc, hword⟩)⟩
        · exact ⟨⟨rfl, hfront⟩, hword.skip slot⟩
      · rintro ⟨⟨rfl, hfront⟩, hword⟩
        rcases (hslot word).mp hword with ⟨hc, hword⟩ | hword
        · exact .inl ⟨word, (hgiven word).mpr ⟨hfront, hword⟩, hc, rfl⟩
        · exact .inr ⟨⟨rfl, hfront⟩, hword⟩

/-- A search for a shape comes upon whatever the text starts with and has the shape. -/
theorem mem_tries : word ∈ tries shape text ↔ word <+: text ∧ Matches shape word := by
  fun_induction tries shape text generalizing word with
  | case1 text =>
      rw [List.mem_singleton]
      constructor
      · rintro rfl
        exact ⟨List.nil_prefix, rfl⟩
      · intro h
        exact h.2
  | case2 slot shape ih =>
      rw [ih, List.prefix_nil]
      refine and_congr_right fun hword => ?_
      rw [hword]
      exact iff_of_true (matches_nil _) (matches_nil _)
  | case3 accepts shape c text ihGiven ihLeft =>
      exact mem_tries_cons (fun _ => matches_optional_cons_iff) (fun _ => ihGiven) fun _ => ihLeft
  | case4 accepts shape c text ihGiven ihLeft =>
      exact mem_tries_cons (fun _ => matches_many_cons_iff) (fun _ => ihGiven) fun _ => ihLeft

theorem head?_tries_nil (shape : Shape) : (tries shape []).head? = some [] := by
  induction shape with
  | nil => rw [tries, List.head?_cons]
  | cons slot shape ih => rw [tries, ih]

/-- What a search comes upon first is the cut: to give a character to the first slot that takes it
never makes it fail, since all that follows may stay empty. -/
theorem head?_tries (shape : Shape) (text : List Char) :
    (tries shape text).head? = some (take shape text) := by
  fun_induction take shape text with
  | case1 => simp [tries]
  | case2 shape => exact head?_tries_nil shape
  | case3 accepts shape c text hc ih =>
      rw [tries, if_pos hc]
      simp [ih]
  | case5 accepts shape c text hc ih =>
      rw [tries, if_pos hc]
      simp [ih]
  | case4 accepts shape c text hc ih | case6 accepts shape c text hc ih =>
      rw [tries, if_neg hc, List.nil_append, ih]

end Shape

end PythonStyle.Text
