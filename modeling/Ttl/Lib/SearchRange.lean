import Mathlib.Order.Interval.Set.Basic

/-!
# Bracketing an unknown threshold

A search for an unknown natural number keeps a bracket, the interval of the values that are still
possible. An observation at `c` tells whether the threshold is at least `c`, and raises the lower end
to `c` or drops the upper end below `c`. The threshold stays in the bracket, and an observation
strictly inside the bracket makes it narrower.
-/

/-- The interval `[lo, hi]` of the values still possible. -/
structure SearchRange where
  /-- The least possible value. -/
  lo : ℕ
  /-- The greatest possible value. -/
  hi : ℕ

namespace SearchRange

variable {b : SearchRange} {c M : ℕ}

/-- The values that the bracket admits. -/
def toSet (b : SearchRange) : Set ℕ := Set.Icc b.lo b.hi

/-- A size is in the set of a range when it lies between its ends. -/
theorem mem_toSet : M ∈ b.toSet ↔ b.lo ≤ M ∧ M ≤ b.hi := Set.mem_Icc

/-- How far the bracket's ends lie apart. -/
def width (b : SearchRange) : ℕ := b.hi - b.lo

/-- The threshold was seen to be at least `c`. -/
def raise (b : SearchRange) (c : ℕ) : SearchRange := { b with lo := c }

/-- The threshold was seen to be below `c`. -/
def lower (b : SearchRange) (c : ℕ) : SearchRange := { b with hi := c - 1 }

/-- The middle of the bracket. -/
def mid (b : SearchRange) : ℕ := (b.lo + b.hi) / 2

/-- Raising to a value that the threshold reaches keeps the threshold in the bracket. -/
theorem mem_raise (h : M ∈ b.toSet) (hc : c ≤ M) : M ∈ (b.raise c).toSet :=
  mem_toSet.mpr ⟨hc, (mem_toSet.mp h).2⟩

/-- Lowering below a value that the threshold misses keeps the threshold in the bracket. -/
theorem mem_lower (h : M ∈ b.toSet) (hc : M < c) : M ∈ (b.lower c).toSet := by
  refine mem_toSet.mpr ⟨(mem_toSet.mp h).1, ?_⟩
  show M ≤ c - 1
  omega

/-- Raising to a value above the lower end narrows the bracket. -/
theorem width_raise_lt (hlo : b.lo < c) (hhi : c ≤ b.hi) : (b.raise c).width < b.width := by
  show b.hi - c < b.hi - b.lo
  omega

/-- Lowering below a value inside the bracket, its lower end excepted, narrows it. -/
theorem width_lower_lt (hlo : b.lo < c) (hhi : c ≤ b.hi) : (b.lower c).width < b.width := by
  show c - 1 - b.lo < b.hi - b.lo
  omega

/-- The middle of a bracket at least two wide lies above its lower end. -/
theorem lo_lt_mid (h : 2 ≤ b.width) : b.lo < b.mid := by
  unfold width at h
  unfold mid
  omega

/-- The middle of a bracket with its ends in order lies at most at its upper end. -/
theorem mid_le_hi (h : b.lo ≤ b.hi) : b.mid ≤ b.hi := by
  unfold mid
  omega

/-- A threshold in a bracket lies within the bracket's width above the lower end. -/
theorem le_lo_add_width (h : M ∈ b.toSet) : M ≤ b.lo + b.width := by
  obtain ⟨hlo, hhi⟩ := mem_toSet.mp h
  unfold width
  omega

end SearchRange
