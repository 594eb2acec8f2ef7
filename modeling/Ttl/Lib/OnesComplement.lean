import Mathlib.Data.Nat.ModEq

/-!
# One's-complement sums

A sum of `w`-bit words whose carries are added at the low end again. `fold` is the sum without carries. It keeps
the remainder modulo `2^w - 1` (`fold_modEq`), and of the two words that stand for the remainder 0 it is all ones
unless the sum is 0 (`fold_eq_ones`). A checksum is the complement of a folded sum, and the sum with it folds to
all ones (`fold_add_complement`).
-/

namespace OnesComplement

variable {w : ℕ} [NeZero w] {n : ℕ}

/-- Folding a carry makes a number smaller. -/
theorem carry_lt (h : 2^w ≤ n) : n % 2^w + n / 2^w < n := by
  have hw : 2^1 ≤ 2^w := Nat.pow_le_pow_right Nat.zero_lt_two (Nat.pos_of_ne_zero (NeZero.ne w))
  have hquot : 0 < n / 2^w := Nat.div_pos h (Nat.two_pow_pos w)
  have hdiv := Nat.mod_add_div n (2^w)
  have htwice : 2 * (n / 2^w) ≤ 2^w * (n / 2^w) := Nat.mul_le_mul_right _ hw
  omega

/-- The sum whose carries have been added at the low end. -/
def fold (w : ℕ) [NeZero w] (n : ℕ) : ℕ := if n < 2^w then n else fold w (n % 2^w + n / 2^w)
termination_by n
decreasing_by exact carry_lt (by omega)

/-- A number without a carry is folded already. -/
theorem fold_of_lt (h : n < 2^w) : fold w n = n := by
  rw [fold, if_pos h]

/-- A number with a carry is folded once more. -/
theorem fold_of_le (h : 2^w ≤ n) : fold w n = fold w (n % 2^w + n / 2^w) := by
  rw [fold, if_neg (Nat.not_lt.mpr h)]

/-- A folded number has no carry. -/
theorem fold_lt (n : ℕ) : fold w n < 2^w := by
  fun_induction fold w n with
  | case1 n h => exact h
  | case2 n h ih => exact ih

/-- A carry counts as one, as `2^w` does modulo `2^w - 1`. -/
theorem fold_modEq (n : ℕ) : fold w n ≡ n [MOD 2^w - 1] := by
  fun_induction fold w n with
  | case1 n h => rfl
  | case2 n h ih =>
    refine ih.trans ?_
    have hpow : 2^w ≡ 1 [MOD 2^w - 1] := Nat.modEq_sub Nat.one_le_two_pow
    have hmul := (hpow.mul_right (n / 2^w)).add_left (n % 2^w)
    rw [Nat.mod_add_div, Nat.one_mul] at hmul
    exact hmul.symm

/-- A folded number is zero for zero only. -/
theorem fold_pos (h : 0 < n) : 0 < fold w n := by
  fun_induction fold w n with
  | case1 n hlt => exact h
  | case2 n hle ih =>
    have hquot : 0 < n / 2^w := Nat.div_pos (Nat.not_lt.mp hle) (Nat.two_pow_pos w)
    exact ih (by omega)

/-- A multiple of `2^w - 1` that is not zero folds to all ones. -/
theorem fold_eq_ones (hpos : 0 < n) (hdvd : 2^w - 1 ∣ n) : fold w n = 2^w - 1 := by
  have hlt := fold_lt (w := w) n
  have hfold : 2^w - 1 ∣ fold w n := (fold_modEq n).symm.dvd_iff dvd_rfl |>.mp hdvd
  have hle : 2^w - 1 ≤ fold w n := Nat.le_of_dvd (fold_pos hpos) hfold
  omega

/-- There are numbers below the modulus. -/
theorem modulus_pos : 0 < 2^w - 1 := by
  have hw : 2^1 ≤ 2^w := Nat.pow_le_pow_right Nat.zero_lt_two (Nat.pos_of_ne_zero (NeZero.ne w))
  omega

/-- **A sum with the complement of its folded value** folds to all ones. -/
theorem fold_add_complement (n : ℕ) : fold w (n + (2^w - 1 - fold w n)) = 2^w - 1 := by
  have hlt := fold_lt (w := w) n
  have hmod := modulus_pos (w := w)
  refine fold_eq_ones ?_ ?_
  · obtain rfl | hpos := Nat.eq_zero_or_pos n
    · rw [fold_of_lt (Nat.two_pow_pos w)]
      omega
    · omega
  · have hsum : n + (2^w - 1 - fold w n) ≡ fold w n + (2^w - 1 - fold w n) [MOD 2^w - 1] :=
      (fold_modEq n).symm.add_right _
    rw [Nat.add_sub_cancel' (by omega)] at hsum
    exact (hsum.dvd_iff dvd_rfl).mpr dvd_rfl

/-- A sum that folds to all ones still does with all ones added, the other word for zero. -/
theorem fold_add_ones (h : fold w n = 2^w - 1) : fold w (n + (2^w - 1)) = 2^w - 1 := by
  have hmod := modulus_pos (w := w)
  refine fold_eq_ones (by omega) ?_
  have hdvd : 2^w - 1 ∣ n := ((fold_modEq n).dvd_iff dvd_rfl).mp (by rw [h])
  exact Nat.dvd_add hdvd dvd_rfl

end OnesComplement
