import Mathlib.Data.List.Sort
import Mathlib.Order.Bounds.Basic

/-!
# Order statistics

The element at a place of a sorted list, by what the list says of it: fewer elements than that are smaller, and more are
not greater. This names at most one element of each list and grows with the place, however the list was sorted.
-/

namespace OrderStatistics

variable {α : Type*} [LinearOrder α] {l : List α} {i j : ℕ} {x y : α}

/-- The element at a place of the sorted list, the first being at place zero. -/
structure IsNth (l : List α) (i : ℕ) (x : α) : Prop where
  mem : x ∈ l
  smaller : l.countP (fun y => y < x) ≤ i
  notGreater : i < l.countP fun y => y ≤ x

/-- A later place has no smaller value. -/
theorem IsNth.mono (hx : IsNth l i x) (hy : IsNth l j y) (hij : i ≤ j) : x ≤ y := by
  by_contra hlt
  have hcount : l.countP (fun z => z ≤ y) ≤ l.countP fun z => z < x :=
    List.countP_mono_left fun z _ hz => decide_eq_true ((of_decide_eq_true hz).trans_lt (not_le.mp hlt))
  have hle := hx.smaller
  have hgt := hy.notGreater
  omega

/-- There is one value in each place. -/
theorem IsNth.unique (hx : IsNth l i x) (hy : IsNth l i y) : x = y :=
  le_antisymm (hx.mono hy le_rfl) (hy.mono hx le_rfl)

/-- The first is the least. -/
theorem IsNth.isLeast (hx : IsNth l 0 x) : IsLeast {y | y ∈ l} x := by
  refine ⟨hx.mem, fun y hy => ?_⟩
  have hnone := List.countP_eq_zero.mp (Nat.le_zero.mp hx.smaller) y hy
  exact not_lt.mp fun hlt => hnone (decide_eq_true hlt)

/-- The last is the greatest. -/
theorem IsNth.isGreatest (hx : IsNth l (l.length - 1) x) : IsGreatest {y | y ∈ l} x := by
  have hpos : 0 < l.length := List.length_pos_of_mem hx.mem
  have hall : l.countP (fun y => y ≤ x) = l.length := by
    have hle := List.countP_le_length (p := fun y => decide (y ≤ x)) (l := l)
    have hgt := hx.notGreater
    omega
  exact ⟨hx.mem, fun y hy => of_decide_eq_true (List.countP_eq_length.mp hall y hy)⟩

/-- The element at a place of a list that is sorted. -/
theorem isNth_of_pairwise (hsorted : l.Pairwise (· ≤ ·)) (hi : i < l.length) : IsNth l i l[i] := by
  have hle {j k : ℕ} (hk : k < l.length) (hjk : j ≤ k) : l[j] ≤ l[k] := by
    obtain rfl | hlt := Nat.eq_or_lt_of_le hjk
    · exact le_rfl
    · exact List.pairwise_iff_getElem.mp hsorted j k _ hk hlt
  refine ⟨List.getElem_mem hi, ?_, ?_⟩
  · -- From the place on nothing is smaller.
    have hrest : (l.drop i).countP (fun y => y < l[i]) = 0 := by
      refine List.countP_eq_zero.mpr fun y hy => ?_
      obtain ⟨k, hk, rfl⟩ := List.mem_iff_getElem.mp hy
      rw [List.getElem_drop, decide_eq_true_eq, not_lt]
      exact hle _ (Nat.le_add_right i k)
    calc l.countP (fun y => y < l[i])
        = (l.take i).countP (fun y => y < l[i]) + (l.drop i).countP (fun y => y < l[i]) := by
          rw [← List.countP_append, List.take_append_drop]
      _ ≤ (l.take i).length + 0 := Nat.add_le_add List.countP_le_length hrest.le
      _ ≤ i := List.length_take_le i l
  · -- Up to the place nothing is greater.
    have hfirst : (l.take (i + 1)).countP (fun y => y ≤ l[i]) = (l.take (i + 1)).length := by
      refine List.countP_eq_length.mpr fun y hy => ?_
      obtain ⟨k, hk, rfl⟩ := List.mem_iff_getElem.mp hy
      rw [List.length_take] at hk
      rw [List.getElem_take, decide_eq_true_eq]
      exact hle hi (by omega)
    have hlength : i < (l.take (i + 1)).length := by
      rw [List.length_take]
      omega
    exact (hlength.trans_eq hfirst.symm).trans_le (List.take_sublist (i + 1) l).countP_le

/-- The order of the list does not matter. -/
theorem IsNth.of_perm {k : List α} (hx : IsNth l i x) (hperm : l.Perm k) : IsNth k i x :=
  ⟨hperm.mem_iff.mp hx.mem, hperm.countP_eq _ ▸ hx.smaller, hperm.countP_eq _ ▸ hx.notGreater⟩

/-- Sorting finds it. -/
theorem isNth_insertionSort (hi : i < (l.insertionSort (· ≤ ·)).length) :
    IsNth l i (l.insertionSort (· ≤ ·))[i] :=
  (isNth_of_pairwise (List.pairwise_insertionSort (· ≤ ·) l) hi).of_perm (List.perm_insertionSort (· ≤ ·) l)

end OrderStatistics
