/-!
# Shapes of names

A shape is a sequence of slots, each of which takes characters of one class: at most
one, or any number.  Every slot may stay empty.  Since a slot that takes a character
leaves more behind it than any later slot would, it is enough to give each character
to the first slot that takes it.

Main definitions:

- `Shape.take` and `Shape.rest` cut a text behind the longest beginning of a shape.
- `Shape.fits`: whether a whole text has a shape.

Main results:

- `Shape.takes_of_mem_take` and `Shape.not_mem_take`: each character that is taken goes to a slot.
- `Shape.take_append_rest`: cutting loses nothing.
- `Shape.fits_iff`: a text has a shape if nothing is left of it.
-/

namespace PythonStyle.Text

/-- A slot of a shape. -/
inductive Slot where
  /-- At most one character of a class. -/
  | optional (accepts : Char → Bool)
  /-- Any number of characters of a class. -/
  | many (accepts : Char → Bool)

/-- Whether a slot takes a character. -/
def Slot.takes : Slot → Char → Bool
  | optional accepts => accepts
  | many accepts => accepts

/-- A sequence of slots. -/
abbrev Shape := List Slot

namespace Shape

/-- The longest beginning of a text that has a shape. -/
def take : Shape → List Char → List Char
  | [], _ => []
  | _, [] => []
  | .optional accepts :: shape, c :: text =>
    if accepts c then c :: take shape text else take shape (c :: text)
  | .many accepts :: shape, c :: text =>
    if accepts c then c :: take (.many accepts :: shape) text else take shape (c :: text)
termination_by shape text => shape.length + text.length

/-- What follows the longest beginning that has a shape. -/
def rest (shape : Shape) (text : List Char) : List Char :=
  text.drop (take shape text).length

/-- Whether a whole text has a shape. -/
def fits (shape : Shape) (text : List Char) : Bool :=
  (rest shape text).isEmpty

/-- What is taken is a beginning of the text. -/
theorem take_prefix (shape : Shape) (text : List Char) : take shape text <+: text := by
  fun_induction take shape text with
  | case1 => exact List.nil_prefix
  | case2 => exact List.nil_prefix
  | case3 _ _ c _ _ ih => exact (List.prefix_cons_inj c).2 ih
  | case4 _ _ _ _ _ ih => exact ih
  | case5 _ _ c _ _ ih => exact (List.prefix_cons_inj c).2 ih
  | case6 _ _ _ _ _ ih => exact ih

/-- Each character that a shape takes goes to one of its slots. -/
theorem takes_of_mem_take {shape : Shape} {text : List Char} {c : Char}
    (h : c ∈ take shape text) : ∃ slot ∈ shape, slot.takes c := by
  fun_induction take shape text with
  | case1 | case2 => cases h
  | case3 accepts shape d text hd ih =>
      rcases List.mem_cons.mp h with rfl | h
      · exact ⟨_, List.mem_cons_self, hd⟩
      · obtain ⟨slot, hslot, hc⟩ := ih h
        exact ⟨slot, List.mem_cons_of_mem _ hslot, hc⟩
  | case5 accepts shape d text hd ih =>
      rcases List.mem_cons.mp h with rfl | h
      · exact ⟨_, List.mem_cons_self, hd⟩
      · exact ih h
  | case4 accepts shape d text hd ih | case6 accepts shape d text hd ih =>
      obtain ⟨slot, hslot, hc⟩ := ih h
      exact ⟨slot, List.mem_cons_of_mem _ hslot, hc⟩

/-- A character that no slot takes is not taken. -/
theorem not_mem_take {shape : Shape} {c : Char} (h : ∀ slot ∈ shape, slot.takes c = false)
    (text : List Char) : c ∉ take shape text := by
  intro hmem
  obtain ⟨slot, hslot, htakes⟩ := takes_of_mem_take hmem
  rw [h slot hslot] at htakes
  cases htakes

/-- Cutting a text loses nothing. -/
@[simp] theorem take_append_rest (shape : Shape) (text : List Char) :
    take shape text ++ rest shape text = text := by
  obtain ⟨tail, h⟩ := take_prefix shape text
  rw [rest]
  conv => lhs; rhs; rhs; rw [← h]
  rw [List.drop_left, h]

/-- A text has a shape exactly if all of it is taken. -/
theorem fits_iff {shape : Shape} {text : List Char} :
    fits shape text = true ↔ take shape text = text := by
  rw [fits, List.isEmpty_iff]
  constructor
  · intro h
    have := take_append_rest shape text
    rwa [h, List.append_nil] at this
  · intro h
    rw [rest, h, List.drop_length]

@[simp] theorem fits_nil (shape : Shape) : fits shape [] = true := by
  simp [fits, rest]

end Shape

end PythonStyle.Text
