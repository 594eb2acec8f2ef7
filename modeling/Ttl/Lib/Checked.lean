import Ttl.Lib.Bytes

/-!
# Arithmetic that may overflow, and loops

A sum or a product of machine integers that does not fit its width is a panic, as an index out of range is.
`addUsize`, `mulUsize` and `addU32` are the operations on natural numbers with that check.

A `while` loop is a body that goes on from a new state or leaves with a result, each iteration costing one unit
of fuel. `Advances` says that every iteration moves a position forward and not beyond a bound.
-/

namespace Bytes

/-- A number of `w` bits. -/
def fit (w n : ℕ) : Parse ℕ := if n < 2^w then .ok n else .error .panic

/-- A value below the width fits. -/
theorem fit_ok {w n : ℕ} (h : n < 2^w) : fit w n = .ok n := if_pos h

/-- A value above it panics. -/
theorem fit_panic {w n : ℕ} (h : 2^w ≤ n) : fit w n = .error .panic := if_neg (Nat.not_lt.mpr h)

/-- A value that fits is unchanged. -/
theorem fit_eq {w n m : ℕ} (h : fit w n = .ok m) : m = n := by
  unfold fit at h
  split_ifs at h
  cases h
  rfl

/-- `+` of `usize`. -/
def addUsize (a b : ℕ) : Parse ℕ := fit 64 (a + b)

/-- `*` of `usize`. -/
def mulUsize (a b : ℕ) : Parse ℕ := fit 64 (a * b)

/-- `+` of `u32`. -/
def addU32 (a b : ℕ) : Parse ℕ := fit 32 (a + b)

/-- A sum below `2^64` does not overflow. -/
theorem addUsize_ok {a b : ℕ} (h : a + b < 2^64) : addUsize a b = .ok (a + b) := fit_ok h

/-- A product below `2^64` does not overflow. -/
theorem mulUsize_ok {a b : ℕ} (h : a * b < 2^64) : mulUsize a b = .ok (a * b) := fit_ok h

/-- A sum below `2^32` does not overflow. -/
theorem addU32_ok {a b : ℕ} (h : a + b < 2^32) : addU32 a b = .ok (a + b) := fit_ok h

/-- A panic ends the parser. -/
theorem panic_bind {α β : Type} (f : α → Parse β) :
    (Except.error .panic : Parse α) >>= f = .error .panic := rfl

/-! ## Loops -/

/-- What an iteration of a loop comes to. -/
inductive Next (σ α : Type) where
  | again (s : σ)
  | leave (a : α)

/-- A loop. -/
def loop {σ α : Type} (body : σ → Parse (Next σ α)) : ℕ → σ → Parse α
  | 0, _ => .error .fuel
  | fuel + 1, s => do
    match ← body s with
    | .again s' => loop body fuel s'
    | .leave a => return a

section

variable {σ α : Type} {body : σ → Parse (Next σ α)} {pos : σ → ℕ} {bound fuel : ℕ} {s s' : σ} {a : α}

/-- A round that goes on leaves the loop to one unit of fuel less. -/
theorem loop_again (h : body s = .ok (.again s')) : loop body (fuel + 1) s = loop body fuel s' := by
  rw [loop, h, ok_bind]

/-- A round that leaves the loop gives its result. -/
theorem loop_leave (h : body s = .ok (.leave a)) : loop body (fuel + 1) s = .ok a := by
  rw [loop, h, ok_bind]
  rfl

/-- A round that panics has the loop panic. -/
theorem loop_panic (h : body s = .error .panic) : loop body (fuel + 1) s = .error .panic := by
  rw [loop, h, panic_bind]

/-- Every iteration moves the position forward, up to the bound. -/
def Advances (body : σ → Parse (Next σ α)) (pos : σ → ℕ) (bound : ℕ) : Prop :=
  ∀ s s', body s = .ok (.again s') → pos s < pos s' ∧ pos s' ≤ bound

end

end Bytes
