import Ttl.State.Hop

/-!
# Statistics that are computed on demand

The methods of `ResponderStats` and `Hop` in `src/state/session.rs` that the analyses and the exports read. A
`Duration` comes from the whole microseconds of an `f64`.
-/

namespace Ttl

/-- `as u64` of an `f64`, which truncates and saturates. -/
def asU64 (x : ℚ) : ℕ := min x.floor.toNat (2^64 - 1)

/-- `Duration::as_secs_f64`. -/
def asSecsF64 (d : ℕ) : ℚ := d / 10^9

namespace ResponderStats

/-- `avg_rtt`. -/
def avgRtt (s : ResponderStats) : ℕ := fromMicros (asU64 s.mean_rtt)

/-- `stddev`: of a square root only the whole part counts. -/
def stddev (s : ResponderStats) : ℕ :=
  if s.received < 2 then 0
  else
    let variance := s.m2 / s.received
    fromMicros (min (Nat.sqrt variance.floor.toNat) (2^64 - 1))

/-- `jitter`. -/
def jitterDuration (s : ResponderStats) : ℕ := fromMicros (asU64 s.jitter)

/-- `jitter_avg`. -/
def jitterAvg (s : ResponderStats) : ℕ := fromMicros (asU64 s.jitter_avg)

/-- `jitter_max`. -/
def jitterMax (s : ResponderStats) : ℕ := fromMicros (asU64 s.jitter_max)

end ResponderStats

namespace Hop

/-- `primary_stats`. -/
def primaryStats (h : Hop) : Option ResponderStats := h.primary.bind h.responders.lookup

/-- `loss_pct`: of the probes that were answered or timed out. -/
def lossPct (h : Hop) : ℚ :=
  let completed := h.received + h.timeouts
  if completed = 0 then 0 else (h.timeouts : ℚ) / completed * 100

end Hop

end Ttl
