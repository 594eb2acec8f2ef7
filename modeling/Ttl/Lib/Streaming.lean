import Mathlib.Algebra.BigOperators.Ring.List
import Mathlib.Algebra.Order.BigOperators.Group.List
import Mathlib.Algebra.Order.Field.Rat
import Mathlib.Algebra.CharZero.Infinite
import Mathlib.Data.List.Induction
import Mathlib.Order.Bounds.Basic
import Mathlib.Tactic.FieldSimp
import Mathlib.Tactic.Ring

/-!
# Statistics one sample at a time

The mean of a list, the sum of the squared deviations from it, and the absolute differences of neighbours, with
what one more sample at the end does to each. `mean_concat` and `squaredDeviations_concat` are Welford's
recurrences, which need neither the samples before nor the sum of their squares.
-/

namespace Streaming

section

variable {K : Type*} [Field K]

/-- The mean, 0 of no samples. -/
def mean (l : List K) : K := l.sum / l.length

/-- The mean of nothing is zero. -/
theorem mean_nil : mean ([] : List K) = 0 := by
  rw [mean, List.sum_nil, zero_div]

/-- The sum of the squared deviations from the mean. -/
def squaredDeviations (l : List K) : K := (l.map fun x => (x - mean l)^2).sum

variable [CharZero K]

/-- A list that is not empty has a length to divide by. -/
theorem length_ne_zero {l : List K} (h : l ≠ []) : (l.length : K) ≠ 0 :=
  Nat.cast_ne_zero.mpr (List.length_pos_iff.mpr h).ne'

/-- The mean after one more sample. -/
theorem mean_concat (l : List K) (x : K) :
    mean (l ++ [x]) = mean l + (x - mean l) / (l.length + 1 : ℕ) := by
  have hsucc : ((l.length + 1 : ℕ) : K) ≠ 0 := Nat.cast_ne_zero.mpr (Nat.succ_ne_zero _)
  unfold mean
  rw [List.sum_append, List.sum_singleton, List.length_append, List.length_singleton]
  obtain rfl | hl := eq_or_ne l []
  · simp
  · have hlen := length_ne_zero hl
    push_cast at hsucc ⊢
    field_simp
    ring

/-- The squared deviations sum to the squares less the square of the sum over the length. -/
theorem squaredDeviations_eq (l : List K) :
    squaredDeviations l = (l.map (· ^ 2)).sum - l.sum^2 / l.length := by
  obtain rfl | hl := eq_or_ne l []
  · simp [squaredDeviations]
  have hlen := length_ne_zero hl
  have hexpand : ∀ x : K, (x - mean l)^2 = x^2 + (-(2 * mean l) * x + mean l^2) := fun x => by ring
  have hlinear : (l.map fun x => -(2 * mean l) * x).sum = -(2 * mean l) * l.sum := by
    simpa using List.sum_map_mul_left l id (-(2 * mean l))
  unfold squaredDeviations
  simp only [hexpand, List.sum_map_add]
  rw [hlinear, List.map_const', List.sum_replicate, nsmul_eq_mul]
  unfold mean
  field_simp
  ring

/-- The squared deviations after one more sample. -/
theorem squaredDeviations_concat (l : List K) (x : K) :
    squaredDeviations (l ++ [x]) = squaredDeviations l + (x - mean l) * (x - mean (l ++ [x])) := by
  have hsucc : ((l.length + 1 : ℕ) : K) ≠ 0 := Nat.cast_ne_zero.mpr (Nat.succ_ne_zero _)
  rw [squaredDeviations_eq, squaredDeviations_eq]
  unfold mean
  rw [List.map_append, List.sum_append, List.sum_append, List.length_append, List.length_singleton,
    List.map_singleton, List.sum_singleton, List.sum_singleton]
  obtain rfl | hl := eq_or_ne l []
  · simp
  · have hlen := length_ne_zero hl
    push_cast at hsucc ⊢
    field_simp
    ring

end

section

variable {K : Type*} [Field K] [LinearOrder K] [IsStrictOrderedRing K] {l : List K} {c : K}

/-- A mean is not below what no sample is below. -/
theorem le_mean (hl : l ≠ []) (h : ∀ x ∈ l, c ≤ x) : c ≤ mean l := by
  have hpos : (0 : K) < l.length := Nat.cast_pos.mpr (List.length_pos_iff.mpr hl)
  have hsum : (l.length : K) * c ≤ l.sum := by
    rw [← nsmul_eq_mul]
    exact List.card_nsmul_le_sum l c h
  rw [mean, le_div_iff₀ hpos, mul_comm]
  exact hsum

/-- A mean is below what all samples are below. -/
theorem mean_lt (hl : l ≠ []) (h : ∀ x ∈ l, x < c) : mean l < c := by
  have hpos : (0 : K) < l.length := Nat.cast_pos.mpr (List.length_pos_iff.mpr hl)
  have hsum : l.sum < l.length * c := by
    calc l.sum = (l.map id).sum := by rw [List.map_id]
      _ < (l.map fun _ => c).sum := List.sum_lt_sum_of_ne_nil hl _ _ h
      _ = l.length * c := by rw [List.map_const', List.sum_replicate, nsmul_eq_mul]
  rw [mean, div_lt_iff₀ hpos, mul_comm]
  exact hsum

end

section

variable {K : Type*} [AddGroup K] [Lattice K]

/-- The absolute differences of neighbours. -/
def differences : List K → List K
  | x :: y :: l => |y - x| :: differences (y :: l)
  | _ => []

/-- One value more adds one difference, to the value before it. -/
theorem differences_concat (l : List K) (x y : K) :
    differences (l ++ [x, y]) = differences (l ++ [x]) ++ [|y - x|] := by
  fun_induction differences l with
  | case1 a b l ih =>
    have hcons : ∀ m, differences (a :: b :: l ++ m) = |b - a| :: differences (b :: l ++ m) := fun _ => rfl
    rw [hcons, hcons, ih]
    rfl
  | case2 l hl =>
    obtain _ | ⟨a, _ | ⟨b, l⟩⟩ := l
    · rfl
    · rfl
    · exact absurd rfl (hl a b l)

/-- There is one difference less than values. -/
theorem length_differences (l : List K) : (differences l).length = l.length - 1 := by
  fun_induction differences l with
  | case1 a b l ih => rw [List.length_cons, ih]; rfl
  | case2 l hl =>
    obtain _ | ⟨a, _ | ⟨b, l⟩⟩ := l
    · rfl
    · rfl
    · exact absurd rfl (hl a b l)

end

section

variable {K : Type*} [LinearOrder K]

/-- The least element after one more. -/
theorem isLeast_concat {l : List K} {m x : K} (h : IsLeast {y | y ∈ l} m) :
    IsLeast {y | y ∈ l ++ [x]} (min x m) := by
  have hset : {y | y ∈ l ++ [x]} = {y | y ∈ l} ∪ {x} := by
    ext y
    simp [or_comm]
  rw [hset, min_comm]
  exact h.union isLeast_singleton

/-- The greatest element after one more. -/
theorem isGreatest_concat {l : List K} {m x : K} (h : IsGreatest {y | y ∈ l} m) :
    IsGreatest {y | y ∈ l ++ [x]} (max x m) := by
  have hset : {y | y ∈ l ++ [x]} = {y | y ∈ l} ∪ {x} := by
    ext y
    simp [or_comm]
  rw [hset, max_comm]
  exact h.union isGreatest_singleton

/-- A first element above all others does not count for the least one. -/
theorem isLeast_of_cons {l : List K} {b m : K} (h : IsLeast {y | y ∈ b :: l} m) (hl : l ≠ [])
    (hb : ∀ y ∈ l, y ≤ b) : IsLeast {y | y ∈ l} m := by
  obtain ⟨x, hx⟩ := List.exists_mem_of_ne_nil l hl
  refine ⟨?_, fun y hy => h.2 (List.mem_cons_of_mem _ hy)⟩
  obtain rfl | hmem := List.mem_cons.mp h.1
  · have heq : x = m := le_antisymm (hb x hx) (h.2 (List.mem_cons_of_mem _ hx))
    exact heq ▸ hx
  · exact hmem

/-- A first element below all others does not count for the greatest one. -/
theorem isGreatest_of_cons {l : List K} {b m : K} (h : IsGreatest {y | y ∈ b :: l} m) (hl : l ≠ [])
    (hb : ∀ y ∈ l, b ≤ y) : IsGreatest {y | y ∈ l} m := by
  obtain ⟨x, hx⟩ := List.exists_mem_of_ne_nil l hl
  refine ⟨?_, fun y hy => h.2 (List.mem_cons_of_mem _ hy)⟩
  obtain rfl | hmem := List.mem_cons.mp h.1
  · have heq : x = m := le_antisymm (h.2 (List.mem_cons_of_mem _ hx)) (hb x hx)
    exact heq ▸ hx
  · exact hmem

end

end Streaming
