import Ttl.Lib.Streaming
import Ttl.State.Hop
import Mathlib.Tactic.NormNum

/-!
# The statistics of a responder

`ResponderStats::record_response` of `src/state/session.rs` against the batch definitions of what it keeps. The mean,
the sum of squares and the jitter are those of the RTTs in whole microseconds, to which `as_micros` truncates, and the
extremes and the two windows those of the RTTs themselves.
-/

namespace Ttl

open Streaming

namespace ResponderStats

/-- The RTTs in whole microseconds. -/
def micros (rtts : List ℕ) : List ℚ := rtts.map fun rtt => (asMicros rtt : ℚ)

/-- One sample more, in microseconds. -/
theorem micros_concat (rtts : List ℕ) (rtt : ℕ) : micros (rtts ++ [rtt]) = micros rtts ++ [(asMicros rtt : ℚ)] :=
  List.map_append

/-- There are as many samples in microseconds. -/
theorem length_micros (rtts : List ℕ) : (micros rtts).length = rtts.length := List.length_map _

/-- The statistics after the given RTTs. The extremes start from those of an empty list. -/
structure Summarises (s : ResponderStats) (rtts : List ℕ) : Prop where
  received : s.received = rtts.length
  mean_rtt : s.mean_rtt = mean (micros rtts)
  m2 : s.m2 = squaredDeviations (micros rtts)
  min_rtt : IsLeast {rtt | rtt ∈ durationMax :: rtts} s.min_rtt
  max_rtt : IsGreatest {rtt | rtt ∈ 0 :: rtts} s.max_rtt
  jitter_avg : s.jitter_avg = mean (differences (micros rtts))
  jitter_max : IsGreatest {d | d ∈ 0 :: differences (micros rtts)} s.jitter_max
  last_rtt : s.last_rtt = rtts.getLast?
  recent : s.recent = (rtts.map some).rtake recentWindowSize
  samples : s.samples = rtts.rtake maxSamples

/-- A new responder has no samples. -/
theorem summarises_new (ip : IpAddr) : (new ip).Summarises [] where
  received := rfl
  mean_rtt := mean_nil.symm
  m2 := rfl
  min_rtt := by simp [new]
  max_rtt := by simp [new]
  jitter_avg := mean_nil.symm
  jitter_max := by simp [new, micros, differences]
  last_rtt := rfl
  recent := rfl
  samples := rfl

section

variable {s : ResponderStats} {rtts : List ℕ} {rtt : ℕ}

/-- The difference that the jitter step takes is the one of the last two RTTs. -/
theorem differences_micros_concat (rtts : List ℕ) (last rtt : ℕ) :
    differences (micros (rtts ++ [last, rtt])) =
      differences (micros (rtts ++ [last])) ++ [|(asMicros rtt : ℚ) - asMicros last|] := by
  unfold micros
  rw [List.map_append, List.map_append]
  exact differences_concat _ _ _

/-- The jitter after one more RTT. -/
theorem Summarises.jitter (h : s.Summarises rtts) (rtt : ℕ) :
    (s.recordResponse rtt).jitter_avg = mean (differences (micros (rtts ++ [rtt]))) ∧
      IsGreatest {d | d ∈ 0 :: differences (micros (rtts ++ [rtt]))} (s.recordResponse rtt).jitter_max := by
  obtain rfl | ⟨init, last, rfl⟩ := List.eq_nil_or_concat' rtts
  · -- The first RTT has none before it.
    have hlast : s.last_rtt = none := h.last_rtt
    have havg := h.jitter_avg
    have hmax := h.jitter_max
    unfold ResponderStats.recordResponse recordJitter
    rw [hlast]
    exact ⟨havg, hmax⟩
  · -- The counter is one ahead of the differences, of which the first RTT has none.
    have hlast : s.last_rtt = some last := by
      rw [h.last_rtt, List.getLast?_concat]
    have hlength : (differences (micros (init ++ [last]))).length + 1 = s.received := by
      rw [length_differences, length_micros, h.received, List.length_append, List.length_singleton,
        Nat.add_sub_cancel]
    have hpair : init ++ [last] ++ [rtt] = init ++ [last, rtt] := by
      rw [List.append_assoc, List.singleton_append]
    have hcount : ((s.received + 1 : ℕ) : ℚ) - 1 = s.received := by
      push_cast
      ring
    rw [hpair, differences_micros_concat, mean_concat, hlength, ← h.jitter_avg, ← List.cons_append]
    have hmax := isGreatest_concat (x := |(asMicros rtt : ℚ) - asMicros last|) h.jitter_max
    unfold ResponderStats.recordResponse recordJitter
    rw [hlast]
    dsimp only
    rw [hcount]
    refine ⟨rfl, ?_⟩
    rwa [max_comm, max_def_lt] at hmax

/-- One more RTT. -/
theorem Summarises.recordResponse (h : s.Summarises rtts) :
    (s.recordResponse rtt).Summarises (rtts ++ [rtt]) := by
  have hreceived : (s.received + 1 : ℕ) = rtts.length + 1 := by rw [h.received]
  have hmean : s.mean_rtt + ((asMicros rtt : ℚ) - s.mean_rtt) / (s.received + 1 : ℕ) =
      mean (micros (rtts ++ [rtt])) := by
    rw [micros_concat, mean_concat, length_micros, h.mean_rtt, h.received]
  have hjitter := h.jitter rtt
  -- Beside the jitter nothing depends on whether there was an RTT before.
  refine ⟨?_, ?_, ?_, ?_, ?_, hjitter.1, hjitter.2, ?_, ?_, ?_⟩
  · rw [recordResponse_received, h.received, List.length_append, List.length_singleton]
  · rw [← hmean]
    unfold ResponderStats.recordResponse recordJitter
    cases s.last_rtt with
    | none => rfl
    | some last => rfl
  · rw [micros_concat, squaredDeviations_concat, ← micros_concat, ← hmean, ← h.m2, ← h.mean_rtt]
    unfold ResponderStats.recordResponse recordJitter
    cases s.last_rtt with
    | none => rfl
    | some last => rfl
  · rw [recordResponse_min_rtt, ← List.cons_append]
    exact isLeast_concat h.min_rtt
  · rw [recordResponse_max_rtt, ← List.cons_append]
    exact isGreatest_concat h.max_rtt
  · rw [List.getLast?_concat]
    rfl
  · rw [List.map_append, List.map_singleton, ← pushWindow_rtake, ← h.recent]
    unfold ResponderStats.recordResponse recordJitter
    cases s.last_rtt with
    | none => rfl
    | some last => rfl
  · rw [← pushWindow_rtake, ← h.samples]
    unfold ResponderStats.recordResponse recordJitter
    cases s.last_rtt with
    | none => rfl
    | some last => rfl

/-- The statistics summarise all responses. -/
theorem summarises_foldl (ip : IpAddr) (rtts : List ℕ) :
    (rtts.foldl ResponderStats.recordResponse (new ip)).Summarises rtts := by
  induction rtts using List.reverseRecOn with
  | nil => exact summarises_new ip
  | append_singleton rtts rtt ih =>
    rw [List.foldl_append, List.foldl_cons, List.foldl_nil]
    exact ih.recordResponse

end

/-- The batch statistics of the RTTs. -/
structure IsBatch (s : ResponderStats) (rtts : List ℕ) : Prop where
  mean_rtt : s.mean_rtt = mean (micros rtts)
  m2 : s.m2 = squaredDeviations (micros rtts)
  min_rtt : IsLeast {rtt | rtt ∈ rtts} s.min_rtt
  max_rtt : IsGreatest {rtt | rtt ∈ rtts} s.max_rtt
  jitter_avg : s.jitter_avg = mean (differences (micros rtts))
  jitter_max : 2 ≤ rtts.length → IsGreatest {d | d ∈ differences (micros rtts)} s.jitter_max
  jitter_single : rtts.length = 1 → s.jitter_avg = 0 ∧ s.jitter_max = 0
  recent : s.recent = (rtts.map some).rtake 60
  samples : s.samples = rtts.rtake 256

end ResponderStats

/-- No difference is negative. -/
theorem differences_nonneg {l : List ℚ} {d : ℚ} (h : d ∈ differences l) : 0 ≤ d := by
  fun_induction differences l with
  | case1 a b l ih =>
    obtain rfl | hmem := List.mem_cons.mp h
    · exact abs_nonneg _
    · exact ih hmem
  | case2 l hl => cases h

/-- **The streaming statistics** of a responder are the batch statistics of its RTTs. -/
theorem recordResponse_isBatch (ip : IpAddr) {rtts : List ℕ} (hne : rtts ≠ [])
    (hbound : ∀ rtt ∈ rtts, rtt ≤ durationMax) :
    (rtts.foldl ResponderStats.recordResponse (ResponderStats.new ip)).IsBatch rtts := by
  have h := ResponderStats.summarises_foldl ip rtts
  refine ⟨h.mean_rtt, h.m2, isLeast_of_cons h.min_rtt hne hbound,
    isGreatest_of_cons h.max_rtt hne fun _ _ => Nat.zero_le _, h.jitter_avg, fun htwo => ?_, fun hone => ?_,
    h.recent, h.samples⟩
  · refine isGreatest_of_cons h.jitter_max ?_ fun d => differences_nonneg
    intro hnil
    have hlength := length_differences (ResponderStats.micros rtts)
    rw [hnil, ResponderStats.length_micros, List.length_nil] at hlength
    omega
  · have hlength := length_differences (ResponderStats.micros rtts)
    rw [ResponderStats.length_micros, hone] at hlength
    have hnil : differences (ResponderStats.micros rtts) = [] := List.eq_nil_of_length_eq_zero hlength
    have hmax := h.jitter_max.1
    rw [hnil] at hmax
    refine ⟨?_, List.mem_singleton.mp hmax⟩
    rw [h.jitter_avg, hnil, mean_nil]

/-- Three RTTs. -/
theorem recordResponse_isBatch_three :
    ([1000000, 3000500, 2000000].foldl ResponderStats.recordResponse
      (ResponderStats.new (.V4 ⟨192, 0, 2, 1⟩))).IsBatch [1000000, 3000500, 2000000] :=
  recordResponse_isBatch _ (by decide) (by decide)

/-- A part of a microsecond does not count: of a single RTT of 1500 nanoseconds the mean is 1 microsecond. -/
theorem recordResponse_mean_fails :
    ([1500].foldl ResponderStats.recordResponse (ResponderStats.new (.V4 ⟨192, 0, 2, 1⟩))).mean_rtt ≠
      mean [(1500 : ℚ) / 1000] := by
  rw [(ResponderStats.summarises_foldl _ [1500]).mean_rtt]
  intro h
  have hmicros : ResponderStats.micros [1500] = [1] := rfl
  rw [hmicros, mean, mean] at h
  norm_num at h

end Ttl
