import Mathlib.Data.List.Lex
import Mathlib.Data.String.Basic
import PythonStyle.Proofs.Encoding
import PythonStyle.Proofs.Sorting

/-!
# The order of files by their bytes

Texts are compared character by character, but files are named by bytes.  The encoding of
characters keeps their order, so that both ways to compare agree, and a report is sorted by
the bytes of its files.

Main definitions:

- `Diagnostic.Precedes`: the order of a report, by the bytes of the file, then by the line,
  then by the code as it is written.
- `Diagnostic.IsStableSort`: what it means that one list is the stable sort of another.

Main results:

- Theorem `Utf8.encode_append_lt`: a smaller character comes first, whatever follows.
- Theorem `Text.bytes_lt_bytes_iff`: texts are in the order of their bytes.
- Theorem `Diagnostic.isStableSort_sort`: sorting gives the stable sort by bytes.
- Theorem `Diagnostic.IsStableSort.eq_sort`: there is no other.
-/

namespace PythonStyle

namespace Utf8

/-! ## The bytes of characters in order -/

/-- Bytes are in the order of their numbers. -/
theorem map_toNat_lt_iff {x y : List UInt8} : x.map UInt8.toNat < y.map UInt8.toNat ↔ x < y := by
  have hmap {x y : List UInt8} (h : x < y) : x.map UInt8.toNat < y.map UInt8.toNat :=
    List.map_lt (fun _ _ => UInt8.lt_iff_toNat_lt.mp) h
  constructor
  · intro h
    by_contra hnot
    by_cases hyx : y = x
    · exact List.lt_irrefl _ (hyx ▸ h)
    · exact List.lt_asymm h (hmap (Std.lt_of_le_of_ne (List.not_lt.mp hnot) hyx))
  · exact hmap

/-- Of two texts that go apart, the one that goes on with the smaller character has the
smaller bytes. -/
theorem encode_append_lt {c d : Char} (h : c < d) (x y : List UInt8) :
    String.utf8EncodeChar c ++ x < String.utf8EncodeChar d ++ y := by
  have hlt : c.toNat < d.toNat := h
  rw [← map_toNat_lt_iff, List.map_append, List.map_append]
  change charBytes c ++ _ < charBytes d ++ _
  -- Encodings of different lengths differ in the mark, those of one length in a digit.
  rw [charBytes_eq, charBytes_eq]
  split_ifs <;> simp only [List.cons_append, List.nil_append, List.cons_lt_cons_iff] <;> omega

theorem flatMap_encode_lt {s t : List Char} (h : List.Lex (· < ·) s t) :
    s.flatMap String.utf8EncodeChar < t.flatMap String.utf8EncodeChar := by
  induction h with
  | @nil c rest =>
      obtain ⟨byte, more, hbytes⟩ := List.exists_cons_of_ne_nil (encode_ne_nil c)
      rw [List.flatMap_nil, List.flatMap_cons, hbytes]
      exact List.nil_lt_cons byte _
  | cons _ ih => exact List.append_left_lt ih
  | rel hcd => exact encode_append_lt hcd _ _

end Utf8

namespace Text

/-! ## Texts in order -/

theorem bytes_lt_bytes {s t : String} (h : s < t) : bytes s < bytes t :=
  Utf8.flatMap_encode_lt (List.lex_lt.mpr (String.lt_iff_toList_lt.mp h))

/-- Texts are in the order of their bytes. -/
theorem bytes_lt_bytes_iff {s t : String} : bytes s < bytes t ↔ s < t := by
  constructor
  · intro h
    rcases lt_trichotomy s t with hst | rfl | hts
    · exact hst
    · exact absurd h (List.lt_irrefl _)
    · exact absurd h (List.lt_asymm (bytes_lt_bytes hts))
  · exact bytes_lt_bytes

/-- Different texts have different bytes. -/
theorem bytes_inj {s t : String} : bytes s = bytes t ↔ s = t := by
  constructor
  · intro h
    have hs : decode? (bytes s) = some s := decode?_eq_some_iff.mpr rfl
    have ht : decode? (bytes t) = some t := decode?_eq_some_iff.mpr rfl
    rw [h, ht] at hs
    exact (Option.some.inj hs).symm
  · exact congrArg bytes

end Text

namespace Diagnostic

/-! ## The order of a report -/

/-- Whether a diagnostic may stand before another one: by the bytes of the file, then by the
line, then by the code as it is written. -/
def Precedes (d e : Diagnostic) : Prop :=
  Text.bytes d.file < Text.bytes e.file ∨
    Text.bytes d.file = Text.bytes e.file ∧
      (d.line < e.line ∨ d.line = e.line ∧ d.code.text ≤ e.code.text)

/-- What it means that a list is the stable sort of another one: it holds the same
diagnostics, in order, and those that agree in file, line and code as they were. -/
structure IsStableSort (sorted ds : List Diagnostic) : Prop where
  perm : sorted.Perm ds
  ordered : sorted.Pairwise Precedes
  stable : ∀ d, sorted.filter (sameKey d) = ds.filter (sameKey d)

theorem index_le_iff (c d : Code) : c.index ≤ d.index ↔ c.text ≤ d.text := by
  rw [← not_lt, Code.index_lt_iff, not_lt]

/-- The order that a report is sorted by is that of the bytes. -/
theorem isLE_order_iff {d e : Diagnostic} : (order d e).isLE = true ↔ Precedes d e := by
  have hfile : compare d.file e.file = .lt ↔ d.file < e.file := compare_lt_iff_lt
  have hline : compare d.line e.line = .lt ↔ d.line < e.line := compare_lt_iff_lt
  rw [order, Ordering.isLE_then_iff_or, Ordering.isLE_then_iff_or, hfile, hline,
    Std.compare_eq_iff_eq, Std.compare_eq_iff_eq, Std.isLE_compare]
  rw [Precedes, Text.bytes_lt_bytes_iff, Text.bytes_inj, index_le_iff]

/-- Sorting gives the stable sort. -/
theorem isStableSort_sort (ds : List Diagnostic) : IsStableSort (sort ds) ds where
  perm := sort_perm ds
  ordered := (pairwise_sort ds).imp fun h => isLE_order_iff.mp h
  stable := fun d => filter_sort d ds

/-- A list has one stable sort. -/
theorem IsStableSort.eq_sort {sorted ds : List Diagnostic} (h : IsStableSort sorted ds) :
    sorted = sort ds := by
  apply eq_of_pairwise_of_filter_eq (h.ordered.imp fun h => isLE_order_iff.mpr h)
    (pairwise_sort ds)
  intro d
  rw [h.stable, filter_sort]

end Diagnostic
end PythonStyle
