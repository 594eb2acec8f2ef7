import Mathlib.Data.Nat.Basic
import Mathlib.Tactic.Cases

/-!
# A flag with hysteresis

A check that hits raises a flag, or confirms it. A check that misses makes the flag older by one, and withdraws it when
the flag has expired at its new age. What expires may differ from check to check. The level before the check `n` is the
age of the flag, if there is one.
-/

namespace Hysteresis

/-- The level after a check. -/
def next (hit : Prop) [Decidable hit] (expires : ℕ → Prop) [DecidablePred expires] (level : Option ℕ) : Option ℕ :=
  if hit then some 0 else level.bind fun age => if expires (age + 1) then none else some (age + 1)

/-- The level before the check `n`. -/
def level (hits : ℕ → Prop) [DecidablePred hits] (expires : ℕ → ℕ → Prop) [∀ n, DecidablePred (expires n)]
    (start : Option ℕ) : ℕ → Option ℕ
  | 0 => start
  | n + 1 => next (hits n) (expires n) (level hits expires start n)

/-- From the check `k` up to the check `n` nothing hits, and the flag, of age 0 before `k`, does not expire. -/
def Outlives (hits : ℕ → Prop) (expires : ℕ → ℕ → Prop) (age k n : ℕ) : Prop :=
  ∀ j, k ≤ j → j < n → ¬hits j ∧ ¬expires j (age + (j + 1 - k))

section

variable {hits : ℕ → Prop} {expires : ℕ → ℕ → Prop} {start : Option ℕ} {age k n : ℕ}

/-- A hit outlives itself. -/
theorem outlives_self (age n : ℕ) : Outlives hits expires age n n :=
  fun _ hle hlt => absurd hle (Nat.not_le.mpr hlt)

/-- A hit outlives one step more when that is no hit and does not expire. -/
theorem outlives_succ (h : k ≤ n) :
    Outlives hits expires age k (n + 1) ↔
      Outlives hits expires age k n ∧ ¬hits n ∧ ¬expires n (age + (n + 1 - k)) := by
  constructor
  · intro ho
    exact ⟨fun j hle hlt => ho j hle (Nat.lt_succ_of_lt hlt), ho n h (Nat.lt_succ_self n)⟩
  · rintro ⟨ho, hlast⟩ j hle hlt
    obtain hlt | rfl := Nat.lt_succ_iff_lt_or_eq.mp hlt
    · exact ho j hle hlt
    · exact hlast

variable [DecidablePred hits] [∀ n, DecidablePred (expires n)]

/-- A flag of age `m` comes from the last hit, or from the start when nothing has hit. -/
theorem level_eq_some (m : ℕ) :
    level hits expires start n = some m ↔
      (∃ k < n, hits k ∧ m = n - (k + 1) ∧ Outlives hits expires 0 (k + 1) n) ∨
        ∃ age, start = some age ∧ m = age + n ∧ Outlives hits expires age 0 n := by
  induction n generalizing m with
  | zero =>
    constructor
    · intro h
      exact .inr ⟨m, h, rfl, outlives_self _ _⟩
    · rintro (⟨k, hlt, -⟩ | ⟨age, hstart, rfl, -⟩)
      · exact absurd hlt (Nat.not_lt_zero k)
      · exact hstart
  | succ n ih =>
    rw [level, next]
    by_cases hhit : hits n
    · -- The hit is the last one, whatever was before.
      rw [if_pos hhit]
      constructor
      · rintro ⟨⟩
        exact .inl ⟨n, Nat.lt_succ_self n, hhit, by omega, outlives_self _ _⟩
      · rintro (⟨k, hlt, -, rfl, ho⟩ | ⟨age, -, -, ho⟩)
        · obtain hlt | rfl := Nat.lt_succ_iff_lt_or_eq.mp hlt
          · exact absurd hhit (ho n hlt (Nat.lt_succ_self n)).1
          · rw [Nat.sub_self]
        · exact absurd hhit (ho n (Nat.zero_le n) (Nat.lt_succ_self n)).1
    · rw [if_neg hhit, Option.bind_eq_some_iff]
      constructor
      · rintro ⟨m', hlevel, hnext⟩
        have hexp : ¬expires n (m' + 1) := fun h => by simp [h] at hnext
        rw [if_neg hexp, Option.some.injEq] at hnext
        subst hnext
        obtain ⟨k, hlt, hk, rfl, ho⟩ | ⟨age, hstart, rfl, ho⟩ := (ih m').mp hlevel
        · have hage : n - (k + 1) + 1 = 0 + (n + 1 - (k + 1)) := by omega
          refine .inl ⟨k, Nat.lt_succ_of_lt hlt, hk, by omega, (outlives_succ hlt).mpr ⟨ho, hhit, ?_⟩⟩
          rwa [← hage]
        · refine .inr ⟨age, hstart, by omega, (outlives_succ (Nat.zero_le n)).mpr ⟨ho, hhit, ?_⟩⟩
          rwa [Nat.sub_zero, ← Nat.add_assoc]
      · rintro (⟨k, hlt, hk, rfl, ho⟩ | ⟨age, hstart, rfl, ho⟩)
        · obtain hlt | rfl := Nat.lt_succ_iff_lt_or_eq.mp hlt
          · obtain ⟨ho, -, hexp⟩ := (outlives_succ hlt).mp ho
            have hage : 0 + (n + 1 - (k + 1)) = n - (k + 1) + 1 := by omega
            rw [hage] at hexp
            refine ⟨n - (k + 1), (ih _).mpr (.inl ⟨k, hlt, hk, rfl, ho⟩), ?_⟩
            rw [if_neg hexp, Option.some.injEq]
            omega
          · exact absurd hk hhit
        · obtain ⟨ho, -, hexp⟩ := (outlives_succ (Nat.zero_le n)).mp ho
          refine ⟨age + n, (ih _).mpr (.inr ⟨age, hstart, rfl, ho⟩), ?_⟩
          rw [Nat.sub_zero, ← Nat.add_assoc] at hexp
          rw [if_neg hexp, Nat.add_assoc]

/-- **When the flag stands** before the check `n`. -/
theorem isSome_level :
    (level hits expires start n).isSome ↔
      (∃ k < n, hits k ∧ Outlives hits expires 0 (k + 1) n) ∨
        ∃ age, start = some age ∧ Outlives hits expires age 0 n := by
  rw [Option.isSome_iff_exists]
  constructor
  · rintro ⟨m, h⟩
    obtain ⟨k, hlt, hk, -, ho⟩ | ⟨age, hstart, -, ho⟩ := (level_eq_some m).mp h
    · exact .inl ⟨k, hlt, hk, ho⟩
    · exact .inr ⟨age, hstart, ho⟩
  · rintro (⟨k, hlt, hk, ho⟩ | ⟨age, hstart, ho⟩)
    · exact ⟨_, (level_eq_some _).mpr (.inl ⟨k, hlt, hk, rfl, ho⟩)⟩
    · exact ⟨_, (level_eq_some _).mpr (.inr ⟨age, hstart, rfl, ho⟩)⟩

end

end Hysteresis
