import Ttl.State.RateLimitChecked
import Ttl.Trace.Frames

/-!
# The flag of a rate limit over whole runs

`analyzeRateLimiting` is called again and again, and between one call and the next anything but a reset is done to
the session. `seen` is the session that each call sees. No operation touches a flag, so that the flag of a hop is a
`Hysteresis` whose checks are the calls: it hits where the detection matches, and expires by the counters that the
call sees.
-/

namespace Ttl

open Hysteresis

/-! ## The calls -/

namespace Session

/-- Sessions with the same flags. -/
def SameFlags (x y : Session) : Prop := x.hops.map Hop.rate_limit = y.hops.map Hop.rate_limit

/-- Sessions with the same flags have as many hops. -/
theorem SameFlags.length {x y : Session} (h : x.SameFlags y) : x.hops.length = y.hops.length := by
  have hlength := congrArg List.length h
  rwa [List.length_map, List.length_map] at hlength

/-- The flag of a TTL is that of its hop. -/
theorem rateLimit_eq (x : Session) (ttl : UInt8) :
    x.rateLimit ttl = if ttl = 0 then none else (x.hops.map Hop.rate_limit)[ttl.toNat - 1]?.join := by
  unfold rateLimit hop
  split_ifs
  · rfl
  · rw [List.getElem?_map]
    cases x.hops[ttl.toNat - 1]? <;> rfl

/-- Sessions with the same flags have the same one for each TTL. -/
theorem SameFlags.rateLimit {x y : Session} (h : x.SameFlags y) (ttl : UInt8) : x.rateLimit ttl = y.rateLimit ttl := by
  rw [rateLimit_eq, rateLimit_eq, h]

/-- Operations without a reset keep the flags. -/
theorem sameFlags_foldl {ops : List SessionOp} (hops : ∀ op ∈ ops, op.isReset = false) (x : Session) :
    (ops.foldl SessionOp.apply x).SameFlags x := by
  induction ops generalizing x with
  | nil => rfl
  | cons op ops ih =>
    obtain ⟨hop, hops⟩ := List.forall_mem_cons.mp hops
    exact (ih hops _).trans (SessionOp.map_rate_limit_apply x hop)

/-- The analysis adds no hop. -/
theorem length_analyzeRateLimiting (x : Session) : x.analyzeRateLimiting.hops.length = x.hops.length := by
  have hlength := congrArg (fun s => s.hops.length) x.unflagged_analyzeRateLimiting
  simpa [unflagged] using hlength

/-- The session that the call `n` sees, after `between n` since the last call. -/
def seen (s : Session) (between : ℕ → List SessionOp) : ℕ → Session
  | 0 => (between 0).foldl SessionOp.apply s
  | n + 1 => (between (n + 1)).foldl SessionOp.apply (seen s between n).analyzeRateLimiting

section

variable {s : Session} {between : ℕ → List SessionOp}

/-- A session has as many hops at each analysis. -/
theorem length_seen (hops : ∀ n, ∀ op ∈ between n, op.isReset = false) (n : ℕ) :
    (s.seen between n).hops.length = s.hops.length := by
  induction n with
  | zero => exact (sameFlags_foldl (hops 0) s).length
  | succ n ih =>
    calc (s.seen between (n + 1)).hops.length
        = (s.seen between n).analyzeRateLimiting.hops.length := (sameFlags_foldl (hops (n + 1)) _).length
      _ = (s.seen between n).hops.length := length_analyzeRateLimiting _
      _ = s.hops.length := ih

/-- The age of the flag that the call `n` sees. -/
def age (s : Session) (between : ℕ → List SessionOp) (ttl : UInt8) : ℕ → Option ℕ :=
  level (fun j => (s.seen between j).Matches ttl) (fun j => (s.seen between j).Expires ttl)
    ((s.rateLimit ttl).map RateLimitInfo.negative_checks)

/-- Each call is a check. -/
theorem aged_seen (hlen : s.hops.length ≤ 255) (hops : ∀ n, ∀ op ∈ between n, op.isReset = false) (ttl : UInt8)
    (n : ℕ) : Aged ((s.seen between n).rateLimit ttl) (s.age between ttl n) := by
  induction n with
  | zero =>
    rw [seen, (sameFlags_foldl (hops 0) s).rateLimit, age, level, Aged, Option.map_map]
    rfl
  | succ n ih =>
    have hlen' : (s.seen between n).hops.length ≤ 255 := by rwa [length_seen hops]
    rw [seen, (sameFlags_foldl (hops (n + 1)) _).rateLimit, age, level]
    exact ih.analyzeRateLimiting hlen'

/-- **Hysteresis of the flag.** After each call a hop is flagged exactly when no call since the last one at which the
detection matched cleared the flag. A session that starts with a flag counts its age from the checks already counted.
A flag is raised only with enough probes and loss, the flags of the other hops do not matter, and nothing is divided by
zero. -/
theorem rateLimit_hysteresis (hlen : s.hops.length ≤ 254) (hops : ∀ n, ∀ op ∈ between n, op.isReset = false)
    (ttl : UInt8) (n : ℕ) :
    (((s.seen between n).analyzeRateLimiting.rateLimit ttl).isSome ↔
      (∃ k ≤ n, (s.seen between k).Matches ttl ∧
        ∀ j, k < j → j ≤ n → ¬(s.seen between j).Matches ttl ∧ ¬(s.seen between j).Expires ttl (j - k)) ∨
      ∃ info, s.rateLimit ttl = some info ∧
        ∀ j ≤ n, ¬(s.seen between j).Matches ttl ∧
          ¬(s.seen between j).Expires ttl (info.negative_checks + (j + 1))) ∧
    ((s.seen between n).rateLimit ttl = none → ((s.seen between n).analyzeRateLimiting.rateLimit ttl).isSome →
      ∃ hop, (s.seen between n).hop ttl = some hop ∧ 10 ≤ hop.received + hop.timeouts ∧ 5 ≤ hop.lossPct) ∧
    (∀ y : Session, (s.seen between n).unflagged = y.unflagged →
      (s.seen between n).rateLimit ttl = y.rateLimit ttl →
      (s.seen between n).analyzeRateLimiting.hop ttl = y.analyzeRateLimiting.hop ttl) ∧
    (s.seen between n).analyzeRateLimitingChecked = some (s.seen between n).analyzeRateLimiting := by
  have hlen' : (s.seen between n).hops.length ≤ 255 := by
    rw [length_seen hops]
    omega
  have hnow := aged_seen (hlen.trans (by decide)) hops ttl n
  have hnext := hnow.analyzeRateLimiting hlen'
  refine ⟨?_, ?_, fun y hrest hflag => hop_analyzeRateLimiting_congr hlen' hrest hflag,
    analyzeRateLimitingChecked_eq _⟩
  · have hlevel : (s.age between ttl (n + 1)).isSome ↔ _ := isSome_level
    rw [hnext.isSome]
    refine hlevel.trans (or_congr ?_ ?_)
    · constructor
      · rintro ⟨k, hk, hmatch, ho⟩
        refine ⟨k, Nat.lt_succ_iff.mp hk, hmatch, fun j hkj hjn => ?_⟩
        have hage : 0 + (j + 1 - (k + 1)) = j - k := by omega
        have hj := ho j hkj (Nat.lt_succ_of_le hjn)
        rwa [hage] at hj
      · rintro ⟨k, hk, hmatch, ho⟩
        refine ⟨k, Nat.lt_succ_of_le hk, hmatch, fun j hkj hjn => ?_⟩
        have hage : 0 + (j + 1 - (k + 1)) = j - k := by omega
        rw [hage]
        exact ho j hkj (Nat.lt_succ_iff.mp hjn)
    · constructor
      · rintro ⟨age, hstart, ho⟩
        obtain ⟨info, hinfo, rfl⟩ := Option.map_eq_some_iff.mp hstart
        exact ⟨info, hinfo, fun j hjn => ho j (Nat.zero_le j) (Nat.lt_succ_of_le hjn)⟩
      · rintro ⟨info, hinfo, ho⟩
        refine ⟨info.negative_checks, by rw [hinfo, Option.map_some], fun j _ hjn => ?_⟩
        exact ho j (Nat.lt_succ_iff.mp hjn)
  · -- Where there was no flag, only a match raises one.
    intro hnone hsome
    have hlevel : s.age between ttl n = none := by
      rw [hnone, Aged, Option.map_none] at hnow
      exact Option.map_eq_none_iff.mp hnow.symm
    rw [hnext.isSome, hlevel, next] at hsome
    split_ifs at hsome with hmatch
    · exact detectRateLimiting_isSome hmatch
    · cases hsome

end

/-! ## Sample runs -/

/-- A reply from the hop of a TTL. -/
def sampleReply (ttl : UInt8) : SessionOp :=
  .polled Tracer.sampleTarget ⟨⟨ttl, 0⟩, .V4 ⟨192, 0, 2, ttl⟩, 1000, none, none⟩

/-- A timeout at a TTL. -/
def sampleTimeout (ttl : UInt8) : SessionOp :=
  .timeout 0 true true ⟨⟨ttl, 0⟩, 0, Tracer.sampleTarget, false⟩ ⟨0, Tracer.sampleTarget, 0, none, none⟩

/-- Loss at the first hop only, until before the third call the second hop begins to lose. -/
def sampleBetween : ℕ → List SessionOp
  | 0 => List.replicate 15 (sampleReply 1) ++ List.replicate 6 (sampleTimeout 1) ++ List.replicate 5 (sampleReply 2)
  | 2 => List.replicate 5 (sampleTimeout 2)
  | _ => []

def sampleStart : Session := Session.new Tracer.sampleTarget SessionOp.sampleConfig 0

/-- Nothing of the sample is a reset. -/
theorem isReset_sampleBetween : ∀ n, ∀ op ∈ sampleBetween n, op.isReset = false := by
  intro n
  match n with
  | 0 => decide
  | 2 => decide
  | 1 | n + 3 =>
    intro op hop
    cases hop

/-- After the second call the first hop is flagged. -/
theorem rateLimit_hysteresis_sample :
    ((sampleStart.seen sampleBetween 1).analyzeRateLimiting.rateLimit 1).isSome :=
  (rateLimit_hysteresis (by decide) isReset_sampleBetween 1 1).1.mpr
    (.inl ⟨1, le_rfl, by decide +kernel, fun j hlt hle => absurd hle (Nat.not_le.mpr hlt)⟩)

/-- It has to be the last match that no call clears. The first two calls match, and the fourth one clears the flag. No
call after the first one is without a match in between, so that none clears the first match. -/
theorem rateLimit_any_match_fails :
    ¬(((sampleStart.seen sampleBetween 3).analyzeRateLimiting.rateLimit 1).isSome ↔
      ∃ k ≤ 3, (sampleStart.seen sampleBetween k).Matches 1 ∧
        ¬∃ j, k < j ∧ j ≤ 3 ∧ (∀ i, k < i → i ≤ j → ¬(sampleStart.seen sampleBetween i).Matches 1) ∧
          (sampleStart.seen sampleBetween j).Expires 1 (j - k)) := by
  have hfirst : (sampleStart.seen sampleBetween 0).Matches 1 := by decide +kernel
  have hsecond : (sampleStart.seen sampleBetween 1).Matches 1 := by decide +kernel
  have hcleared : ¬((sampleStart.seen sampleBetween 3).analyzeRateLimiting.rateLimit 1).isSome := by decide +kernel
  intro h
  refine hcleared (h.mpr ⟨0, Nat.zero_le 3, hfirst, ?_⟩)
  rintro ⟨j, hj, -, hnone, -⟩
  exact hnone 1 Nat.one_pos hj hsecond

end Session

end Ttl
