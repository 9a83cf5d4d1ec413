/-!
# Text and bytes

A text is written as bytes, one to four for each character.  Not all bytes are a text, but all can
be shown: the longest piece that begins a character without completing it is shown as one
replacement, and so is any other byte that belongs to no character.

Main definitions:

- `Text.bytes`: the bytes of a text.
- `Utf8.first?`: the character that bytes start with.
- `Utf8.brokenTail`: how many bytes belong to a character that is not completed.
- `Utf8.shown`: the characters that show bytes.

Main results:

- `Utf8.length_lt_of_first?`: a character has at least one byte.
-/

namespace PythonStyle

/-- The bytes of a text. -/
def Text.bytes (text : String) : List UInt8 := text.toList.flatMap String.utf8EncodeChar

namespace Utf8

/-! ## The first character -/

/-- Reads so many continuation bytes as digits, to base sixty-four, behind a number. -/
def digits? : Nat → Nat → List UInt8 → Option (Nat × List UInt8)
  | 0, value, rest => some (value, rest)
  | count + 1, value, b :: rest =>
    if 0x80 ≤ b ∧ b < 0xC0 then digits? count (value * 64 + (b.toNat - 0x80)) rest else none
  | _ + 1, _, [] => none

/-- The character with a given scalar value, if it needs at least `least`. -/
def scalar? (least value : Nat) : Option Char :=
  if least ≤ value ∧ value.isValidChar then some (Char.ofNat value) else none

/-- The character with given leading digits, which has so many continuation bytes. -/
def long? (least count value : Nat) (rest : List UInt8) : Option (Char × List UInt8) :=
  (digits? count value rest).bind fun found => (scalar? least found.1).map fun c => (c, found.2)

/-- The character that bytes start with, in its shortest form, and the bytes behind it. -/
def first? : List UInt8 → Option (Char × List UInt8)
  | [] => none
  | a :: rest =>
    if a < 0x80 then some (Char.ofNat a.toNat, rest)
    else if a < 0xC0 then none
    else if a < 0xE0 then long? 0x80 1 (a.toNat - 0xC0) rest
    else if a < 0xF0 then long? 0x800 2 (a.toNat - 0xE0) rest
    else if a < 0xF8 then long? 0x10000 3 (a.toNat - 0xF0) rest
    else none

theorem length_of_digits? {count value found : Nat} {rest more : List UInt8}
    (h : digits? count value rest = some (found, more)) : rest.length = more.length + count := by
  fun_induction digits? count value rest with
  | case1 value rest =>
      cases h
      rfl
  | case2 count value b rest hb ih =>
      rw [List.length_cons, ih h]
      omega
  | case3 => cases h
  | case4 => cases h

/-- A long character is its digits and a scalar value. -/
theorem long?_eq_some_iff {least count value : Nat} {rest more : List UInt8} {c : Char} :
    long? least count value rest = some (c, more) ↔
      ∃ found, digits? count value rest = some (found, more) ∧ scalar? least found = some c := by
  simp only [long?, Option.bind_eq_some_iff, Option.map_eq_some_iff, Prod.mk.injEq, Prod.exists]
  constructor
  · rintro ⟨found, behind, hdigits, d, hd, rfl, rfl⟩
    exact ⟨found, hdigits, hd⟩
  · rintro ⟨found, hdigits, hc⟩
    exact ⟨found, more, hdigits, c, hc, rfl, rfl⟩

theorem length_le_of_long? {least count value : Nat} {rest more : List UInt8} {c : Char}
    (h : long? least count value rest = some (c, more)) : more.length ≤ rest.length := by
  obtain ⟨found, hdigits, -⟩ := long?_eq_some_iff.mp h
  have hlength := length_of_digits? hdigits
  omega

/-- A character has at least one byte. -/
theorem length_lt_of_first? {a : UInt8} {rest more : List UInt8} {c : Char}
    (h : first? (a :: rest) = some (c, more)) : more.length < (a :: rest).length := by
  have hle : more.length ≤ rest.length := by
    rw [first?] at h
    split at h
    · cases h
      exact Nat.le_refl _
    · split at h
      · cases h
      · split at h
        · exact length_le_of_long? h
        · split at h
          · exact length_le_of_long? h
          · split at h
            · exact length_le_of_long? h
            · cases h
  exact Nat.lt_succ_of_le hle

/-! ## Showing any bytes -/

/-- Whether bytes begin a character: the least continuation bytes would complete it. -/
def isBegun (bytes : List UInt8) : Bool :=
  [1, 2].any fun missing =>
    ((first? (bytes ++ List.replicate missing 0x80)).map Prod.snd) == some []

/-- How many bytes behind a first one belong to the same character, which they do not complete. -/
def brokenTail (a : UInt8) (rest : List UInt8) : Nat :=
  ([2, 1].find? fun n => n ≤ rest.length && isBegun (a :: rest.take n)).getD 0

/-- The character that stands for bytes that are none. -/
def replacement : Char := '\uFFFD'

/-- The characters that show bytes. -/
def shown : List UInt8 → List Char
  | [] => []
  | a :: rest =>
    match hfirst : first? (a :: rest) with
    | some (c, more) =>
      have _hshorter := length_lt_of_first? hfirst
      c :: shown more
    | none => replacement :: shown (rest.drop (brokenTail a rest))
termination_by bytes => bytes.length
decreasing_by
  · assumption
  · rw [List.length_drop, List.length_cons]
    omega

/-- One byte that is missing is shown as one, and so are three that are all missing one more. -/
example : shown [0xE1, 0x80, 0x41, 0xFF, 0xF0, 0x90, 0x80] =
    [replacement, 'A', replacement, replacement] := by cbv

end Utf8

end PythonStyle
