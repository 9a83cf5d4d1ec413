import Mathlib.Algebra.Group.Nat.Defs
import Mathlib.Data.List.Basic
import Mathlib.Tactic.SplitIfs
import PythonStyle.FileSystem.Path
import PythonStyle.Source

/-!
# Reading and showing bytes

Bytes are read character by character.  A character is found exactly where its bytes stand, so that
bytes are decoded if they are the bytes of a text, and to that text alone.  Bytes that are no text
are shown all the same; a text is shown as it is, and a character of ASCII keeps what stands before
it from what stands behind it.

Main definitions:

- `Utf8.charBytes`: the bytes of a character, as numbers.

Main results:

- Theorem `Utf8.first?_eq_some_iff`: the character that bytes start with.
- Theorem `decode?_eq_some_iff`: the text that bytes encode.
- Theorem `Utf8.shown_bytes`: a text is shown as it is.
- Theorem `Utf8.shown_append_cons`: a character of ASCII ends what stands before it.
- Theorem `Path.label_ofText`: a path that is a text is its own label.
-/

namespace PythonStyle

namespace Utf8

variable {a b : UInt8} {rest more bytes : List UInt8} {c : Char}

/-! ## The bytes of a character -/

/-- The bytes of a character, as numbers. -/
def charBytes (c : Char) : List Nat := (String.utf8EncodeChar c).map UInt8.toNat

/-- Behind a mark for their number, the bytes of a character are its digits to base
sixty-four. -/
theorem charBytes_eq (c : Char) :
    charBytes c =
      if c.toNat ≤ 127 then [c.toNat]
      else if c.toNat ≤ 2047 then [c.toNat / 64 + 192, c.toNat % 64 + 128]
      else if c.toNat ≤ 65535 then
        [c.toNat / 4096 + 224, c.toNat / 64 % 64 + 128, c.toNat % 64 + 128]
      else
        [c.toNat / 262144 + 240, c.toNat / 4096 % 64 + 128, c.toNat / 64 % 64 + 128,
          c.toNat % 64 + 128] := by
  have hvalid : c.toNat < 0xd800 ∨ 0xdfff < c.toNat ∧ c.toNat < 0x110000 := c.valid
  have hval : c.val.toNat = c.toNat := rfl
  unfold charBytes String.utf8EncodeChar
  simp only [hval]
  split_ifs <;> simp [UInt8.toNat_ofNat'] <;> omega

theorem map_toNat_inj : bytes.map UInt8.toNat = more.map UInt8.toNat ↔ bytes = more := by
  have hinj : Function.Injective UInt8.toNat := fun _ _ => UInt8.toNat.inj
  exact (List.map_injective_iff.mpr hinj).eq_iff

/-- Bytes start with those of a character if they do so as numbers. -/
theorem eq_encode_append_iff :
    bytes = String.utf8EncodeChar c ++ more ↔
      bytes.map UInt8.toNat = charBytes c ++ more.map UInt8.toNat := by
  rw [charBytes, ← List.map_append, map_toNat_inj]

theorem encode_ne_nil (c : Char) : String.utf8EncodeChar c ≠ [] := by
  intro h
  have hlength := String.length_utf8EncodeChar c
  rw [h, List.length_nil] at hlength
  exact Nat.ne_of_lt c.utf8Size_pos hlength

/-- A byte of ASCII is in no character but its own. -/
theorem eq_singleton_of_mem_charBytes {n : Nat} (h : n ∈ charBytes c) (hn : n < 128) :
    charBytes c = [n] ∧ c.toNat = n := by
  rw [charBytes_eq] at h ⊢
  split_ifs at h ⊢
  · obtain rfl := List.mem_singleton.mp h
    exact ⟨rfl, rfl⟩
  all_goals
    simp only [List.mem_cons, List.not_mem_nil, or_false] at h
    omega

/-! ## Reading a character -/

theorem toNat_ofNat {n : Nat} (h : n.isValidChar) : (Char.ofNat n).toNat = n := by
  rw [Char.ofNat, dif_pos h]
  rfl

theorem scalar?_eq_some_iff {least value : Nat} :
    scalar? least value = some c ↔ least ≤ value ∧ c.toNat = value := by
  rw [scalar?]
  constructor
  · intro h
    split_ifs at h with hvalue
    obtain rfl := Option.some.inj h
    exact ⟨hvalue.1, toNat_ofNat hvalue.2⟩
  · rintro ⟨hleast, rfl⟩
    rw [if_pos ⟨hleast, c.valid⟩, Char.ofNat_toNat]

/-- The continuation bytes of a number, so many of them, as numbers. -/
def trail : Nat → Nat → List Nat
  | 0, _ => []
  | count + 1, value => (value / 64 ^ count % 64 + 128) :: trail count value

/-- Continuation bytes are read as the digits behind a number. -/
theorem digits?_eq_some_iff {count value found : Nat} :
    digits? count value bytes = some (found, more) ↔
      found / 64 ^ count = value ∧
        bytes.map UInt8.toNat = trail count found ++ more.map UInt8.toNat := by
  induction count generalizing value bytes with
  | zero => simp [digits?, trail, map_toNat_inj, eq_comm]
  | succ count ih =>
      cases bytes with
      | nil => simp [digits?, trail]
      | cons b rest =>
          have hb : 0x80 ≤ b ∧ b < 0xC0 ↔ 128 ≤ b.toNat ∧ b.toNat < 192 := by
            rw [UInt8.le_iff_toNat_le, UInt8.lt_iff_toNat_lt]
            rfl
          have hdigit : found / 64 ^ (count + 1) = found / 64 ^ count / 64 := by
            rw [Nat.pow_succ, Nat.div_div_eq_div_mul]
          rw [digits?, trail, List.map_cons, List.cons_append, List.cons.injEq, hdigit]
          generalize found / 64 ^ count = leading at ih ⊢
          split
          · next h =>
              have hrange := hb.mp h
              rw [ih]
              constructor
              · rintro ⟨hleading, hrest⟩
                exact ⟨by omega, by omega, hrest⟩
              · rintro ⟨hvalue, hdigit, hrest⟩
                exact ⟨by omega, hrest⟩
          · next h =>
              refine iff_of_false nofun ?_
              rintro ⟨-, hdigit, -⟩
              exact h (hb.mpr (by omega))

/-- A long character is read where its digits stand, if it needs so many. -/
theorem long?_eq_some_iff_trail {least count value : Nat} :
    long? least count value rest = some (c, more) ↔
      (least ≤ c.toNat ∧ c.toNat / 64 ^ count = value) ∧
        rest.map UInt8.toNat = trail count c.toNat ++ more.map UInt8.toNat := by
  simp only [long?_eq_some_iff, digits?_eq_some_iff, scalar?_eq_some_iff]
  constructor
  · rintro ⟨_, ⟨hvalue, hrest⟩, hleast, rfl⟩
    exact ⟨⟨hleast, hvalue⟩, hrest⟩
  · rintro ⟨⟨hleast, hvalue⟩, hrest⟩
    exact ⟨_, ⟨hvalue, hrest⟩, hleast, rfl⟩

/-- The kind of a first byte says how many bytes follow. -/
theorem first?_cons (a : UInt8) (rest : List UInt8) :
    first? (a :: rest) =
      if a.toNat < 128 then some (Char.ofNat a.toNat, rest)
      else if a.toNat < 192 then none
      else if a.toNat < 224 then long? 128 1 (a.toNat - 192) rest
      else if a.toNat < 240 then long? 2048 2 (a.toNat - 224) rest
      else if a.toNat < 248 then long? 65536 3 (a.toNat - 240) rest
      else none := by
  simp only [first?, UInt8.lt_iff_toNat_lt]
  rfl

/-- The bytes of a character are a mark and its digits. -/
theorem charBytes_eq_trail (c : Char) :
    charBytes c =
      if c.toNat < 128 then [c.toNat]
      else if c.toNat < 2048 then (c.toNat / 64 + 192) :: trail 1 c.toNat
      else if c.toNat < 65536 then (c.toNat / 4096 + 224) :: trail 2 c.toNat
      else (c.toNat / 262144 + 240) :: trail 3 c.toNat := by
  rw [charBytes_eq]
  simp only [trail, Nat.pow_zero, Nat.div_one, Nat.reducePow, ← Nat.lt_succ_iff]

/-- Bytes start with a character exactly if they start with its bytes. -/
theorem first?_eq_some_iff :
    first? bytes = some (c, more) ↔ bytes = String.utf8EncodeChar c ++ more := by
  have hvalid : c.toNat < 0xd800 ∨ 0xdfff < c.toNat ∧ c.toNat < 0x110000 := c.valid
  rw [eq_encode_append_iff, charBytes_eq_trail]
  cases bytes with
  | nil =>
      refine iff_of_false nofun ?_
      split_ifs <;> simp
  | cons a rest =>
      rw [first?_cons, List.map_cons]
      constructor
      · -- The mark says how many digits there are, and these how large the character is.
        intro h
        split_ifs at h
        · obtain ⟨rfl, rfl⟩ := Prod.mk.inj (Option.some.inj h)
          rw [toNat_ofNat (.inl (by omega)), if_pos (by omega)]
          rfl
        all_goals obtain ⟨⟨hleast, hmark⟩, hrest⟩ := long?_eq_some_iff_trail.mp h
        · rw [if_neg (by omega), if_pos (by omega), hrest, List.cons_append, List.cons.injEq]
          exact ⟨by omega, rfl⟩
        · rw [if_neg (by omega), if_neg (by omega), if_pos (by omega), hrest, List.cons_append,
            List.cons.injEq]
          exact ⟨by omega, rfl⟩
        · rw [if_neg (by omega), if_neg (by omega), if_neg (by omega), hrest, List.cons_append,
            List.cons.injEq]
          exact ⟨by omega, rfl⟩
      · intro h
        split_ifs at h
        all_goals obtain ⟨hmark, hrest⟩ := List.cons.inj h
        · obtain rfl := map_toNat_inj.mp hrest
          rw [if_pos (by omega), hmark, Char.ofNat_toNat]
        · rw [if_neg (by omega), if_neg (by omega), if_pos (by omega)]
          exact long?_eq_some_iff_trail.mpr ⟨⟨by omega, by omega⟩, hrest⟩
        · rw [if_neg (by omega), if_neg (by omega), if_neg (by omega), if_pos (by omega)]
          exact long?_eq_some_iff_trail.mpr ⟨⟨by omega, by omega⟩, hrest⟩
        · rw [if_neg (by omega), if_neg (by omega), if_neg (by omega), if_neg (by omega),
            if_pos (by omega)]
          exact long?_eq_some_iff_trail.mpr ⟨⟨by omega, by omega⟩, hrest⟩

/-- Nothing that follows changes where a character is read. -/
theorem first?_append (h : first? bytes = some (c, more)) (behind : List UInt8) :
    first? (bytes ++ behind) = some (c, more ++ behind) := by
  rw [first?_eq_some_iff] at h ⊢
  rw [h, List.append_assoc]

/-- A byte of ASCII is a character. -/
theorem first?_of_ascii (hb : b < 0x80) (rest : List UInt8) :
    first? (b :: rest) = some (Char.ofNat b.toNat, rest) := by
  rw [first?, if_pos hb]

/-! ## Decoding -/

theorem mapM_char?_cons (c : Char) (glyphs : List Glyph) :
    (.char c :: glyphs).mapM Glyph.char? = (glyphs.mapM Glyph.char?).map (c :: ·) := by
  rw [List.mapM_cons]
  cases glyphs.mapM Glyph.char? <;> rfl

/-- The glyphs of bytes are characters exactly if the bytes are those of the characters. -/
theorem mapM_glyphs_eq_some_iff {cs : List Char} :
    (glyphs bytes).mapM Glyph.char? = some cs ↔ bytes = cs.flatMap String.utf8EncodeChar := by
  fun_induction glyphs bytes generalizing cs with
  | case1 =>
      cases cs with
      | nil => simp
      | cons c cs => simp
  | case2 a rest d more hfirst hshorter ih =>
      rw [mapM_char?_cons, Option.map_eq_some_iff]
      cases cs with
      | nil => simp
      | cons c cs =>
          rw [List.flatMap_cons, ← first?_eq_some_iff, hfirst, Option.some.injEq, Prod.mk.injEq]
          constructor
          · rintro ⟨ds, hds, h⟩
            obtain ⟨rfl, rfl⟩ := List.cons.inj h
            exact ⟨rfl, ih.mp hds⟩
          · rintro ⟨rfl, hmore⟩
            exact ⟨cs, ih.mpr hmore, rfl⟩
  | case3 a rest hfirst ih =>
      refine iff_of_false (by simp) ?_
      cases cs with
      | nil => simp
      | cons c cs => simp [← first?_eq_some_iff, hfirst]

end Utf8

/-- Bytes are decoded exactly if they are those of a text, and give that text. -/
theorem decode?_eq_some_iff {bytes : List UInt8} {text : String} :
    decode? bytes = some text ↔ bytes = Text.bytes text := by
  rw [decode?, Source.text?, Source.textOf?, Source.ofBytes, List.toList_toArray,
    Option.map_eq_some_iff, Text.bytes, ← Utf8.mapM_glyphs_eq_some_iff]
  constructor
  · rintro ⟨cs, hcs, rfl⟩
    rwa [String.toList_ofList]
  · intro h
    exact ⟨text.toList, h, String.ofList_toList⟩

namespace Utf8

/-! ## Showing -/

theorem shown_of_first? (h : first? bytes = some (c, more)) : shown bytes = c :: shown more := by
  cases bytes with
  | nil => cases h
  | cons a rest =>
      rw [shown]
      split
      · next d behind hfirst =>
          obtain ⟨rfl, rfl⟩ := Prod.mk.inj (Option.some.inj (hfirst.symm.trans h))
          rfl
      · next hfirst => cases hfirst.symm.trans h

theorem shown_of_first?_eq_none (h : first? (a :: rest) = none) :
    shown (a :: rest) = replacement :: shown (rest.drop (brokenTail a rest)) := by
  rw [shown]
  split
  · next hfirst => cases hfirst.symm.trans h
  · rfl

/-- A text is shown as it is. -/
theorem shown_flatMap_append (cs : List Char) (more : List UInt8) :
    shown (cs.flatMap String.utf8EncodeChar ++ more) = cs ++ shown more := by
  induction cs with
  | nil => rfl
  | cons c cs ih =>
      have hfirst : first? ((c :: cs).flatMap String.utf8EncodeChar ++ more) =
          some (c, cs.flatMap String.utf8EncodeChar ++ more) := by
        rw [first?_eq_some_iff, List.flatMap_cons, List.append_assoc]
      rw [shown_of_first? hfirst, ih, List.cons_append]

/-- Bytes that begin a character have it as their own, with some bytes more. -/
theorem exists_of_isBegun (h : isBegun bytes = true) :
    ∃ missing c, missing ≠ 0 ∧ bytes ++ List.replicate missing 0x80 = String.utf8EncodeChar c := by
  obtain ⟨missing, hmissing, hall⟩ := List.any_eq_true.mp h
  obtain ⟨found, hfound, hnothing⟩ := Option.map_eq_some_iff.mp (beq_iff_eq.mp hall)
  obtain ⟨c, more⟩ := found
  obtain rfl : more = [] := hnothing
  have hbytes := first?_eq_some_iff.mp hfound
  rw [List.append_nil] at hbytes
  refine ⟨missing, c, ?_, hbytes⟩
  rintro rfl
  simp at hmissing

/-- The bytes of a character of ASCII. -/
theorem eq_singleton_of_mem_utf8EncodeChar (h : b ∈ String.utf8EncodeChar c) (hb : b < 0x80) :
    String.utf8EncodeChar c = [b] := by
  have hmem : b.toNat ∈ charBytes c := List.mem_map_of_mem h
  have hascii : charBytes c = [b.toNat] :=
    (eq_singleton_of_mem_charBytes hmem (UInt8.lt_iff_toNat_lt.mp hb)).1
  exact map_toNat_inj.mp hascii

/-- No byte of ASCII stands behind the first of bytes that begin a character. -/
theorem not_mem_of_isBegun (h : isBegun (a :: rest) = true) (hb : b < 0x80) : b ∉ rest := by
  intro hmem
  obtain ⟨missing, c, hmissing, hbytes⟩ := exists_of_isBegun h
  have hown : String.utf8EncodeChar c = [b] := by
    refine eq_singleton_of_mem_utf8EncodeChar ?_ hb
    rw [← hbytes]
    simp [hmem]
  have hlength := congrArg List.length (hbytes.trans hown)
  simp only [List.length_append, List.length_cons, List.length_replicate, List.length_nil]
    at hlength
  omega

theorem brokenTail_le (a : UInt8) (rest : List UInt8) : brokenTail a rest ≤ rest.length := by
  rw [brokenTail]
  cases hfind : [2, 1].find? fun n => n ≤ rest.length && isBegun (a :: rest.take n) with
  | none => exact Nat.zero_le _
  | some n =>
      have hn := List.find?_some hfind
      rw [Bool.and_eq_true, decide_eq_true_iff] at hn
      exact hn.1

/-- A character that is not completed goes no further than a byte of ASCII. -/
theorem brokenTail_append_cons (hb : b < 0x80) (start behind : List UInt8) :
    brokenTail a (start ++ b :: behind) = brokenTail a start := by
  have hsame (n : Nat) :
      (n ≤ (start ++ b :: behind).length && isBegun (a :: (start ++ b :: behind).take n)) =
        (n ≤ start.length && isBegun (a :: start.take n)) := by
    by_cases hn : n ≤ start.length
    · rw [List.take_append_of_le_length hn, List.length_append, decide_eq_true hn,
        decide_eq_true (by omega)]
    · have hmem : b ∈ (start ++ b :: behind).take n := by
        obtain ⟨k, rfl⟩ := Nat.exists_eq_add_of_lt (Nat.lt_of_not_le hn)
        rw [Nat.add_assoc, List.take_length_add_append, List.take_succ_cons]
        simp
      have hnot : isBegun (a :: (start ++ b :: behind).take n) = false :=
        Bool.eq_false_iff.mpr fun hbegun => not_mem_of_isBegun hbegun hb hmem
      rw [hnot, decide_eq_false hn, Bool.and_false, Bool.false_and]
  simp only [brokenTail, hsame]

/-- No character reaches from bytes that start with none over a byte of ASCII. -/
theorem first?_append_cons_eq_none (h : first? (a :: rest) = none) (hb : b < 0x80)
    (behind : List UInt8) : first? (a :: (rest ++ b :: behind)) = none := by
  rw [Option.eq_none_iff_forall_ne_some]
  rintro ⟨c, more⟩ hfirst
  rw [first?_eq_some_iff, ← List.cons_append] at hfirst
  rcases List.append_eq_append_iff.mp hfirst with ⟨inside, hbytes, hbehind⟩ | ⟨inside, hbytes, -⟩
  · cases inside with
    | nil =>
        rw [List.append_nil] at hbytes
        have hwhole : first? (a :: rest) = some (c, []) := by
          rw [first?_eq_some_iff, hbytes, List.append_nil]
        rw [h] at hwhole
        cases hwhole
    | cons d inside =>
        obtain ⟨rfl, -⟩ := List.cons.inj hbehind
        have hown := eq_singleton_of_mem_utf8EncodeChar (by rw [hbytes]; simp) hb
        rw [hbytes] at hown
        have hlength := congrArg List.length hown
        simp at hlength
  · have hstart : first? (a :: rest) = some (c, inside) := first?_eq_some_iff.mpr hbytes
    rw [h] at hstart
    cases hstart

/-- A byte of ASCII is shown as a character of its own, whatever stands before it. -/
theorem shown_append_cons (hb : b < 0x80) (start behind : List UInt8) :
    shown (start ++ b :: behind) = shown start ++ Char.ofNat b.toNat :: shown behind := by
  fun_induction shown start with
  | case1 => exact shown_of_first? (first?_of_ascii hb behind)
  | case2 a rest c more hfirst hshorter ih =>
      rw [shown_of_first? (first?_append hfirst _), ih, List.cons_append]
  | case3 a rest hfirst ih =>
      rw [List.cons_append, shown_of_first?_eq_none (first?_append_cons_eq_none hfirst hb behind),
        brokenTail_append_cons hb, List.drop_append_of_le_length (brokenTail_le a rest), ih,
        List.cons_append]

end Utf8

/-- The bytes of a text are shown as the text. -/
theorem Utf8.shown_bytes (text : String) : Utf8.shown (Text.bytes text) = text.toList := by
  have hshown := Utf8.shown_flatMap_append text.toList []
  rwa [List.append_nil, Utf8.shown, List.append_nil] at hshown

/-- The label of a path that is a text is the text. -/
theorem Path.label_ofText (text : String) : (Path.ofText text).label = text := by
  rw [Path.label, Path.ofText, Utf8.shown_bytes, String.ofList_toList]

end PythonStyle
