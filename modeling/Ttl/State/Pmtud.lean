import Ttl.Lib.Runs
import Ttl.Lib.SearchRange
import Mathlib.Algebra.Group.Nat.Defs

/-!
# Path MTU discovery

`PmtudState` of `src/state/session.rs`: a binary search for the largest probe that crosses the path
unfragmented, between the protocol's minimum and the local maximum. Two consecutive answers at one
size confirm it, and a reported MTU below the upper bound ends the search at once.

`range` reads a state's bounds as a `SearchRange`, and each observation acts on it as the range's own
operations do (`observe_cases`). `search_single_threshold` is the correctness of the search on a path
with one threshold. `search_first_bottleneck` is what the search finds on a path of several links,
where every report comes from the first link that is too narrow for the probe.
-/

namespace Ttl

open Runs

/-- `PmtudPhase`. -/
inductive PmtudPhase where
  /-- Normal traceroute, to find the destination's TTL. -/
  | WaitingForDestination
  /-- Binary search for the MTU. -/
  | Searching
  /-- The search is over. -/
  | Complete
deriving DecidableEq, Repr

/-- `PmtudState`. Sizes are `u16` and the two counters `u8` in the source. -/
structure PmtudState where
  /-- Lower bound, known to work. -/
  min_size : ℕ
  /-- Upper bound, known to fail or untested. -/
  max_size : ℕ
  /-- The size under test. -/
  current_size : ℕ
  /-- Consecutive successes at `current_size`. -/
  successes : ℕ
  /-- Consecutive failures at `current_size`. -/
  failures : ℕ
  /-- The discovered MTU, once the search is over. -/
  discovered_mtu : Option ℕ
  /-- The phase. -/
  phase : PmtudPhase
deriving DecidableEq, Repr

namespace PmtudState

/-- `PmtudState::new`: the bounds for the address family, the upper one raised by `--jumbo`. -/
def new (ipv6 jumbo : Bool) : PmtudState :=
  let min := if ipv6 then 1280 else 68
  let max := if jumbo then 9216 else 1500
  { min_size := min
    max_size := max
    current_size := max
    successes := 0
    failures := 0
    discovered_mtu := none
    phase := .WaitingForDestination }

/-- `is_converged`: the bounds are within 8 bytes. -/
def isConverged (s : PmtudState) : Bool := s.max_size - s.min_size < 8

/-- `next_probe_size`: the midpoint, with the sum in `u16`. -/
def nextProbeSize (s : PmtudState) : ℕ := (s.min_size + s.max_size) % 2^16 / 2

/-- `advance`: the next probe size, or the end of the search. -/
def advance (s : PmtudState) : PmtudState :=
  if s.isConverged then { s with discovered_mtu := some s.min_size, phase := .Complete }
  else { s with current_size := s.nextProbeSize }

/-- `record_success`. -/
def recordSuccess (s : PmtudState) : PmtudState :=
  if 0 < s.failures then { s with failures := 0, successes := 1 }
  else
    let s := { s with successes := s.successes + 1 }
    if 2 ≤ s.successes then
      advance { s with min_size := s.current_size, successes := 0, failures := 0 }
    else s

/-- `record_failure`: a timeout, or a Fragmentation Needed without an MTU. -/
def recordFailure (s : PmtudState) : PmtudState :=
  if 0 < s.successes then { s with successes := 0, failures := 1 }
  else
    let s := { s with failures := s.failures + 1 }
    if 2 ≤ s.failures then
      advance { s with max_size := s.current_size - 1, successes := 0, failures := 0 }
    else s

/-- `record_frag_needed`: a report below the upper bound is taken as the path MTU. -/
def recordFragNeeded (s : PmtudState) (reported_mtu : ℕ) : PmtudState :=
  if reported_mtu < s.max_size then
    { s with
      discovered_mtu := some reported_mtu
      phase := .Complete
      max_size := reported_mtu
      min_size := min s.min_size reported_mtu }
  else
    advance { s with max_size := min s.max_size reported_mtu, successes := 0, failures := 0 }

/-- `start_search`. -/
def startSearch (s : PmtudState) : PmtudState :=
  { s with phase := .Searching, current_size := s.max_size }

/-- A search that starts is searching. -/
@[simp]
theorem startSearch_phase (s : PmtudState) : s.startSearch.phase = .Searching := rfl

/-- A search that starts tries the maximum first. -/
@[simp]
theorem startSearch_current_size (s : PmtudState) : s.startSearch.current_size = s.max_size := rfl

/-- A search that starts keeps the maximum. -/
@[simp]
theorem startSearch_max_size (s : PmtudState) : s.startSearch.max_size = s.max_size := rfl

/-! ## The search as a narrowing range -/

/-- The bounds, as the range of the MTUs still possible. -/
def range (s : PmtudState) : SearchRange := ⟨s.min_size, s.max_size⟩

/-- The range begins at the minimum. -/
@[simp]
theorem range_lo (s : PmtudState) : s.range.lo = s.min_size := rfl

/-- The range ends at the maximum. -/
@[simp]
theorem range_hi (s : PmtudState) : s.range.hi = s.max_size := rfl

/-- What a probe of the current size tells the search. -/
inductive Observation where
  | success
  | failure
  | fragNeeded (mtu : ℕ)
deriving DecidableEq, Repr

/-- The update that an observation calls for. -/
def observe (s : PmtudState) : Observation → PmtudState
  | .success => s.recordSuccess
  | .failure => s.recordFailure
  | .fragNeeded mtu => s.recordFragNeeded mtu

/-- A state in which the search goes on: the size under test is inside the range, above its lower
end, the bounds are small enough for the midpoint's sum, and at most one answer is counted. -/
structure Active (s : PmtudState) : Prop where
  /-- The phase. -/
  phase : s.phase = .Searching
  /-- The size under test is above the lower bound. -/
  lo : s.min_size < s.current_size
  /-- The size under test is at most the upper bound. -/
  hi : s.current_size ≤ s.max_size
  /-- The upper bound is at most the jumbo maximum. -/
  small : s.max_size ≤ 9216
  /-- At most one answer is counted. -/
  count : s.successes + s.failures ≤ 1

/-- A search ended by convergence: the discovered MTU is the lower end of a range less than 8
wide. -/
structure Converged (s : PmtudState) : Prop where
  /-- The phase. -/
  phase : s.phase = .Complete
  /-- The discovered MTU is the lower bound. -/
  mtu : s.discovered_mtu = some s.min_size
  /-- The range is less than 8 wide. -/
  narrow : s.range.width < 8

/-- The search starts active. -/
theorem active_startSearch (ipv6 jumbo : Bool) : (new ipv6 jumbo).startSearch.Active := by
  cases ipv6 <;> cases jumbo <;> constructor <;> decide

/-- Going on to another size keeps the range. -/
@[simp]
theorem range_advance (s : PmtudState) : s.advance.range = s.range := by
  unfold advance
  split_ifs <;> rfl

/-- `advance` ends the search or leaves it active, with nothing counted. -/
theorem advance_spec {s : PmtudState} (hp : s.phase = .Searching) (hle : s.min_size ≤ s.max_size)
    (hsmall : s.max_size ≤ 9216) (hs : s.successes = 0) (hf : s.failures = 0) :
    s.advance.Converged ∨ s.advance.Active ∧ s.advance.successes = 0 ∧ s.advance.failures = 0 := by
  unfold advance
  by_cases h : s.isConverged
  · rw [if_pos h]
    simp only [isConverged, decide_eq_true_eq] at h
    exact Or.inl ⟨rfl, rfl, h⟩
  · rw [if_neg h]
    simp only [isConverged, decide_eq_true_eq, not_lt] at h
    -- The sum of two sizes up to the jumbo maximum does not wrap in `u16`.
    have hmid : s.nextProbeSize = s.range.mid := by
      unfold nextProbeSize SearchRange.mid
      rw [range_lo, range_hi, Nat.mod_eq_of_lt (by omega)]
    refine Or.inr ⟨⟨hp, ?_, ?_, hsmall, by simp [hs, hf]⟩, hs, hf⟩
    · show s.min_size < s.nextProbeSize
      rw [hmid]
      have hwide : 2 ≤ s.range.width := le_trans (by decide : 2 ≤ 8) h
      exact SearchRange.lo_lt_mid hwide
    · show s.nextProbeSize ≤ s.max_size
      rw [hmid]
      exact SearchRange.mid_le_hi hle

/-- What an observation does to an active search: it is counted as the first of its kind, or it
confirms the size under test and moves one end of the range there, or it reports an MTU below the
upper bound and ends the search, or it reports one that is no news. -/
inductive Observed (s : PmtudState) : Observation → PmtudState → Prop
  /-- The first of its kind at this size. -/
  | counted {o s'} (kind : o = .success ∧ s'.successes = 1 ∨ o = .failure ∧ s'.failures = 1)
      (fresh : ¬ (o = .success ∧ s.successes = 1 ∨ o = .failure ∧ s.failures = 1))
      (active : s'.Active) (range : s'.range = s.range) (size : s'.current_size = s.current_size) :
      Observed s o s'
  /-- The second success at this size raises the lower bound. -/
  | raised {s'} (second : s.successes = 1) (range : s'.range = s.range.raise s.current_size)
      (next : s'.Converged ∨ s'.Active ∧ s'.successes = 0 ∧ s'.failures = 0) :
      Observed s .success s'
  /-- The second failure at this size drops the upper bound below it. -/
  | lowered {s'} (second : s.failures = 1) (range : s'.range = s.range.lower s.current_size)
      (next : s'.Converged ∨ s'.Active ∧ s'.successes = 0 ∧ s'.failures = 0) :
      Observed s .failure s'
  /-- A report below the upper bound ends the search. -/
  | reported {mtu s'} (below : mtu < s.max_size) (phase : s'.phase = .Complete)
      (found : s'.discovered_mtu = some mtu) (max : s'.max_size = mtu)
      (min : s'.min_size = min s.min_size mtu) :
      Observed s (.fragNeeded mtu) s'
  /-- A report at or above the upper bound leaves the range as it is. -/
  | noNews {mtu s'} (above : s.max_size ≤ mtu) (range : s'.range = s.range)
      (next : s'.Converged ∨ s'.Active ∧ s'.successes = 0 ∧ s'.failures = 0) :
      Observed s (.fragNeeded mtu) s'

/-- Every observation of an active search is one of the cases of `Observed`. -/
theorem observe_cases {s : PmtudState} (h : s.Active) (o : Observation) :
    Observed s o (s.observe o) := by
  obtain ⟨hp, hlo, hhi, hsmall, hcount⟩ := h
  cases o with
  | success =>
    show Observed s .success s.recordSuccess
    by_cases hf : 0 < s.failures
    · -- A success after a failure starts the count again.
      rw [recordSuccess, if_pos hf]
      exact .counted (Or.inl ⟨rfl, rfl⟩) (by simp; omega) ⟨hp, hlo, hhi, hsmall, le_rfl⟩ rfl rfl
    · rw [recordSuccess, if_neg hf]
      by_cases hs : s.successes = 1
      · rw [if_pos (show 2 ≤ s.successes + 1 by omega)]
        exact .raised hs (range_advance _) (advance_spec hp hhi hsmall rfl rfl)
      · rw [if_neg (show ¬ 2 ≤ s.successes + 1 by omega)]
        refine .counted (Or.inl ⟨rfl, ?_⟩) (by simpa using hs) ⟨hp, hlo, hhi, hsmall, ?_⟩ rfl rfl
        · show s.successes + 1 = 1
          omega
        · show s.successes + 1 + s.failures ≤ 1
          omega
  | failure =>
    show Observed s .failure s.recordFailure
    by_cases hs : 0 < s.successes
    · rw [recordFailure, if_pos hs]
      exact .counted (Or.inr ⟨rfl, rfl⟩) (by simp; omega) ⟨hp, hlo, hhi, hsmall, le_rfl⟩ rfl rfl
    · rw [recordFailure, if_neg hs]
      by_cases hf : s.failures = 1
      · rw [if_pos (show 2 ≤ s.failures + 1 by omega)]
        -- The size under test is above the lower bound, so the subtraction does not truncate.
        refine .lowered hf (range_advance _) (advance_spec hp ?_ ?_ rfl rfl)
        · show s.min_size ≤ s.current_size - 1
          omega
        · show s.current_size - 1 ≤ 9216
          omega
      · rw [if_neg (show ¬ 2 ≤ s.failures + 1 by omega)]
        refine .counted (Or.inr ⟨rfl, ?_⟩) (by simpa using hf) ⟨hp, hlo, hhi, hsmall, ?_⟩ rfl rfl
        · show s.failures + 1 = 1
          omega
        · show s.successes + (s.failures + 1) ≤ 1
          omega
  | fragNeeded mtu =>
    show Observed s (.fragNeeded mtu) (s.recordFragNeeded mtu)
    by_cases hm : mtu < s.max_size
    · rw [recordFragNeeded, if_pos hm]
      exact .reported hm rfl rfl rfl rfl
    · rw [recordFragNeeded, if_neg hm, min_eq_left (not_lt.mp hm)]
      exact .noNews (not_lt.mp hm) (range_advance _)
        (advance_spec hp (by show s.min_size ≤ s.max_size; omega) hsmall rfl rfl)

/-! ## A path with one threshold -/

/-- An observation that a path with the threshold `M` can give at the current size. -/
def Truthful (M : ℕ) (s : PmtudState) : Observation → Prop
  | .success => s.current_size ≤ M
  | .failure => M < s.current_size
  | .fragNeeded mtu => mtu = M ∧ M < s.current_size

instance (M : ℕ) (s : PmtudState) : DecidablePred (Truthful M s)
  | .success => inferInstanceAs (Decidable (_ ≤ _))
  | .failure => inferInstanceAs (Decidable (_ < _))
  | .fragNeeded _ => inferInstanceAs (Decidable (_ ∧ _))

/-- One truthful observation of a search that goes on. -/
def truthfulStep (M : ℕ) (s : PmtudState) (o : Observation) : Option PmtudState :=
  if s.phase = .Searching ∧ Truthful M s o then some (s.observe o) else none

/-- A truthful step is an observation of a search, which the bottleneck allows. -/
theorem truthfulStep_eq_some {M : ℕ} {s s' : PmtudState} {o : Observation} :
    truthfulStep M s o = some s' ↔
      s.phase = .Searching ∧ Truthful M s o ∧ s.observe o = s' := by
  unfold truthfulStep
  split_ifs with h
  · simp [h]
  · simp only [false_iff]
    exact fun h' => h ⟨h'.1, h'.2.1⟩

/-- A search that goes on after truthful observations: the threshold is in the range, and the answers
counted at the current size are those that the threshold gives there. -/
structure OnTrack (M : ℕ) (s : PmtudState) : Prop where
  /-- The search is active. -/
  active : s.Active
  /-- The threshold is in the range. -/
  mem : M ∈ s.range.toSet
  /-- A counted success was truthful. -/
  success : s.successes = 1 → s.current_size ≤ M
  /-- A counted failure was truthful. -/
  failure : s.failures = 1 → M < s.current_size

/-- A search that truthful observations ended, by convergence or by a report. -/
structure Settled (M : ℕ) (s : PmtudState) : Prop where
  /-- The threshold is in the range. -/
  mem : M ∈ s.range.toSet
  /-- How the search ended. -/
  ended : s.Converged ∨ s.phase = .Complete ∧ s.discovered_mtu = some M

/-- The observations that an active search can still take: two for each step that its range can still
shrink by, less one when an answer is already counted. -/
def potential (s : PmtudState) : ℕ := 2 * s.range.width + 1 - (s.successes + s.failures)

/-- A truthful observation other than a report settles the search, or keeps it on track and uses up
potential. The second answer of a kind narrows the range. -/
theorem OnTrack.observed {M : ℕ} {s s' : PmtudState} {o : Observation} (h : OnTrack M s)
    (ht : Truthful M s o) (hm : ∀ mtu, o ≠ .fragNeeded mtu) (ho : Observed s o s') :
    Settled M s' ∨ OnTrack M s' ∧ s'.potential + 1 ≤ s.potential ∧
      (o = .success ∧ s.successes = 1 ∨ o = .failure ∧ s.failures = 1 →
        s'.range.width < s.range.width) := by
  have hc := h.active.count
  cases ho with
  | counted kind fresh active range size =>
    -- The range stays, and the answer that is now counted is the truthful one just given.
    have hc' := active.count
    refine Or.inr ⟨⟨active, by rw [range]; exact h.mem, ?_, ?_⟩, ?_, fun h' => absurd h' fresh⟩
    · intro h1
      rw [size]
      rcases kind with ⟨rfl, -⟩ | ⟨rfl, h2⟩
      · exact ht
      · omega
    · intro h1
      rw [size]
      rcases kind with ⟨rfl, h2⟩ | ⟨rfl, -⟩
      · omega
      · exact ht
    · -- Nothing was counted before: a counted answer of the other kind would contradict this one.
      have h0 : s.successes + s.failures = 0 := by
        by_contra hne
        rcases kind with ⟨rfl, -⟩ | ⟨rfl, -⟩
        · have hs : s.successes ≠ 1 := fun h1 => fresh (Or.inl ⟨rfl, h1⟩)
          have h1 : s.current_size ≤ M := ht
          have h2 := h.failure (by omega)
          omega
        · have hf : s.failures ≠ 1 := fun h1 => fresh (Or.inr ⟨rfl, h1⟩)
          have h1 : M < s.current_size := ht
          have h2 := h.success (by omega)
          omega
      have h1 : s'.successes + s'.failures = 1 := by
        rcases kind with ⟨-, h1⟩ | ⟨-, h1⟩ <;> omega
      unfold potential
      rw [range]
      omega
  | raised second range next =>
    have hlt : (s.range.raise s.current_size).width < s.range.width :=
      SearchRange.width_raise_lt h.active.lo h.active.hi
    -- A truthful success puts the threshold at or above the new lower bound.
    have hmem : M ∈ s'.range.toSet := by
      rw [range]
      exact SearchRange.mem_raise h.mem ht
    rcases next with hconv | ⟨ha, h0, h1⟩
    · exact Or.inl ⟨hmem, Or.inl hconv⟩
    · refine Or.inr ⟨⟨ha, hmem, by omega, by omega⟩, ?_, fun _ => by rw [range]; exact hlt⟩
      unfold potential
      rw [range]
      omega
  | lowered second range next =>
    have hlt : (s.range.lower s.current_size).width < s.range.width :=
      SearchRange.width_lower_lt h.active.lo h.active.hi
    have hmem : M ∈ s'.range.toSet := by
      rw [range]
      exact SearchRange.mem_lower h.mem ht
    rcases next with hconv | ⟨ha, h0, h1⟩
    · exact Or.inl ⟨hmem, Or.inl hconv⟩
    · refine Or.inr ⟨⟨ha, hmem, by omega, by omega⟩, ?_, fun _ => by rw [range]; exact hlt⟩
      unfold potential
      rw [range]
      omega
  | reported => exact absurd rfl (hm _)
  | noNews => exact absurd rfl (hm _)

/-- A truthful report settles the search on the threshold. -/
theorem OnTrack.reported {M mtu : ℕ} {s s' : PmtudState} (h : OnTrack M s)
    (ht : Truthful M s (.fragNeeded mtu)) (ho : Observed s (.fragNeeded mtu) s') :
    Settled M s' ∧ s'.phase = .Complete ∧ s'.discovered_mtu = some M := by
  obtain ⟨rfl, hlt⟩ := ht
  obtain ⟨hlo, -⟩ := SearchRange.mem_toSet.mp h.mem
  cases ho with
  | counted kind => simp at kind
  | reported below phase found max min =>
    refine ⟨⟨SearchRange.mem_toSet.mpr ⟨?_, max.ge⟩, Or.inr ⟨phase, found⟩⟩, phase, found⟩
    show s'.min_size ≤ mtu
    rw [min]
    exact Nat.min_le_right _ _
  | noNews above =>
    -- The threshold is below the current size, so a report of it is always below the upper bound.
    have := h.active.hi
    omega

/-- While the threshold is both the upper bound and the size under test, a truthful answer leaves the
upper bound alone, and the second one ends the search with it. -/
theorem Observed.top {M : ℕ} {s s' : PmtudState} {o : Observation}
    (ho : Observed s o s') (hmax : s.max_size = M) (hcur : s.current_size = M) (ht : Truthful M s o) :
    s'.max_size = M ∧ (s'.phase = .Searching → s'.current_size = M) ∧
      (s'.phase = .Complete → s'.discovered_mtu = some M) := by
  cases ho with
  | counted kind fresh active range size =>
    refine ⟨(congrArg SearchRange.hi range).trans hmax, fun _ => size.trans hcur, fun hc => ?_⟩
    simp [active.phase] at hc
  | raised second range next =>
    have hmin : s'.min_size = s.current_size := congrArg SearchRange.lo range
    have hmax' : s'.max_size = s.max_size := congrArg SearchRange.hi range
    rcases next with hconv | ⟨ha, -⟩
    · refine ⟨by omega, fun hs => by simp [hconv.phase] at hs, fun _ => ?_⟩
      rw [hconv.mtu, hmin, hcur]
    · -- Both bounds are now `M`, which leaves no size to test.
      have := ha.lo
      have := ha.hi
      omega
  | lowered second range next =>
    have hlt : M < s.current_size := ht
    omega
  | reported | noNews =>
    obtain ⟨-, hlt⟩ := ht
    omega

/-- The search starts on track. -/
theorem onTrack_startSearch {ipv6 jumbo : Bool} {M : ℕ} (hlo : (new ipv6 jumbo).min_size ≤ M)
    (hhi : M ≤ (new ipv6 jumbo).max_size) : OnTrack M (new ipv6 jumbo).startSearch where
  active := active_startSearch ipv6 jumbo
  mem := SearchRange.mem_toSet.mpr ⟨hlo, hhi⟩
  success := nofun
  failure := nofun

/-- What holds after the truthful observations `os` of a path with the threshold `M`, from the start
of a search with the upper bound `max` and the potential `B`. -/
structure AfterTruthful (M max B : ℕ) (os : List Observation) (s : PmtudState) : Prop where
  /-- The search is on track, with the potential that the observations have left, or it is over. -/
  status : OnTrack M s ∧ os.length + s.potential ≤ B ∨ Settled M s
  /-- A report ended the search with the threshold. -/
  report : .fragNeeded M ∈ os → s.phase = .Complete ∧ s.discovered_mtu = some M
  /-- When the threshold is the upper bound, the search never leaves it. -/
  top : M = max → s.max_size = max ∧
    (s.phase = .Searching → s.current_size = max) ∧
    (s.phase = .Complete → s.discovered_mtu = some M)

/-- One more truthful observation keeps `AfterTruthful`. -/
theorem AfterTruthful.next {M max B : ℕ} {os : List Observation} {s s' : PmtudState}
    {o : Observation} (h : AfterTruthful M max B os s) (hs : truthfulStep M s o = some s') :
    AfterTruthful M max B (os ++ [o]) s' := by
  obtain ⟨hp, ht, rfl⟩ := truthfulStep_eq_some.mp hs
  -- A report would have ended the search before this observation.
  have hrep : .fragNeeded M ∉ os := fun hin => by simp [(h.report hin).1] at hp
  rcases h.status with ⟨hon, hpot⟩ | hset
  · have ho := observe_cases hon.active o
    by_cases hm : ∃ mtu, o = .fragNeeded mtu
    · obtain ⟨mtu, rfl⟩ := hm
      obtain ⟨hset, hphase, hfound⟩ := hon.reported ht ho
      refine ⟨Or.inr hset, fun _ => ⟨hphase, hfound⟩, fun htop => ?_⟩
      -- A report of the upper bound itself is never truthful.
      obtain ⟨-, hlt⟩ := ht
      have := (h.top htop).2.1 hp
      omega
    · have hm' : ∀ mtu, o ≠ .fragNeeded mtu := fun mtu he => hm ⟨mtu, he⟩
      refine ⟨?_, ?_, ?_⟩
      · rcases hon.observed ht hm' ho with hset | ⟨hon', hlt, -⟩
        · exact Or.inr hset
        · refine Or.inl ⟨hon', ?_⟩
          rw [List.length_append, List.length_singleton]
          omega
      · intro hin
        rcases List.mem_append.mp hin with hin | hin
        · exact absurd hin hrep
        · exact absurd (List.mem_singleton.mp hin).symm (hm' M)
      · intro htop
        obtain ⟨hmax, hcur, -⟩ := h.top htop
        subst htop
        exact ho.top hmax (hcur hp) ht
  · -- A settled search takes no further observation.
    rcases hset.ended with hc | ⟨hc, -⟩
    · simp [hc.phase] at hp
    · simp [hc] at hp

/-- Every run of truthful observations from the start of a search satisfies `AfterTruthful`. -/
theorem afterTruthful {ipv6 jumbo : Bool} {M : ℕ} (hlo : (new ipv6 jumbo).min_size ≤ M)
    (hhi : M ≤ (new ipv6 jumbo).max_size) {os : List Observation} {s : PmtudState}
    (hrun : run (truthfulStep M) (new ipv6 jumbo).startSearch os = some s) :
    AfterTruthful M (new ipv6 jumbo).max_size (new ipv6 jumbo).startSearch.potential os s := by
  refine run_induction _ ?_ (fun os s o s' _ ih hs => ih.next hs) os s hrun
  refine ⟨Or.inl ⟨onTrack_startSearch hlo hhi, by simp⟩, by simp, fun _ => ⟨rfl, fun _ => rfl, ?_⟩⟩
  intro hc
  simp [startSearch] at hc

/-- A truthful observation after which the search goes on does not widen the range. It narrows it
when it is the second of its kind, and is counted when it is the first. -/
theorem OnTrack.width_step {M : ℕ} {s s' : PmtudState} {o : Observation} (h : OnTrack M s)
    (hs : truthfulStep M s o = some s') (hgo : s'.phase = .Searching) :
    OnTrack M s' ∧ (s'.range.width < s.range.width ∨ s'.range = s.range ∧
      ¬ (o = .success ∧ s.successes = 1 ∨ o = .failure ∧ s.failures = 1) ∧
      (o = .success ∧ s'.successes = 1 ∨ o = .failure ∧ s'.failures = 1)) := by
  obtain ⟨-, ht, rfl⟩ := truthfulStep_eq_some.mp hs
  have ho := observe_cases h.active o
  have hm : ∀ mtu, o ≠ .fragNeeded mtu := by
    rintro mtu rfl
    simp [(h.reported ht ho).2.1] at hgo
  rcases h.observed ht hm ho with hset | ⟨hon, -, hnarrow⟩
  · rcases hset.ended with hc | ⟨hc, -⟩
    · simp [hc.phase] at hgo
    · simp [hc] at hgo
  · refine ⟨hon, ?_⟩
    by_cases h2 : o = .success ∧ s.successes = 1 ∨ o = .failure ∧ s.failures = 1
    · exact Or.inl (hnarrow h2)
    · generalize s.observe o = s' at ho ⊢
      cases ho with
      | counted kind _ _ range => exact Or.inr ⟨range, h2, kind⟩
      | raised second => exact absurd (Or.inl ⟨rfl, second⟩) h2
      | lowered second => exact absurd (Or.inr ⟨rfl, second⟩) h2
      | reported | noNews => exact absurd rfl (hm _)

/-- The search on a path with one threshold `M` in the initial range, under any sequence of truthful
observations. The threshold stays in the range. While the search goes on, the size under test is in
the range, another truthful observation exists, the second answer of a kind narrows the range (as do
any two answers of one kind in a row), and the number of observations is bounded. When it is over,
the discovered MTU is at most 7 below the threshold, and it is the threshold after a report of it or
when the threshold is the initial upper bound. -/
theorem search_single_threshold (ipv6 jumbo : Bool) (M : ℕ)
    (hlo : (new ipv6 jumbo).min_size ≤ M) (hhi : M ≤ (new ipv6 jumbo).max_size)
    (os : List Observation) (s : PmtudState)
    (hrun : run (truthfulStep M) (new ipv6 jumbo).startSearch os = some s) :
    (s.min_size ≤ M ∧ M ≤ s.max_size) ∧
    (s.phase = .Searching ∧ s.min_size ≤ s.current_size ∧ s.current_size ≤ s.max_size ∧
        os.length < 2 * ((new ipv6 jumbo).max_size - (new ipv6 jumbo).min_size) + 1 ∧
        (∃ o s', truthfulStep M s o = some s') ∧
        (∀ o s', truthfulStep M s o = some s' → s'.phase = .Searching →
          o = .success ∧ s.successes = 1 ∨ o = .failure ∧ s.failures = 1 →
          s'.max_size - s'.min_size < s.max_size - s.min_size) ∧
        (∀ o s₁ s₂, truthfulStep M s o = some s₁ → truthfulStep M s₁ o = some s₂ →
          s₂.phase = .Searching → s₂.max_size - s₂.min_size < s.max_size - s.min_size) ∨
      s.phase = .Complete ∧ ∃ d, s.discovered_mtu = some d ∧ d ≤ M ∧ M ≤ d + 7 ∧
        (.fragNeeded M ∈ os ∨ M = (new ipv6 jumbo).max_size → d = M)) := by
  have h := afterTruthful hlo hhi hrun
  rcases h.status with ⟨hon, hpot⟩ | hset
  · refine ⟨SearchRange.mem_toSet.mp hon.mem, Or.inl ⟨hon.active.phase, hon.active.lo.le,
      hon.active.hi, ?_, ?_, ?_, ?_⟩⟩
    · -- Each observation has used up potential, and an active search has some left.
      have hlo := hon.active.lo
      have hhi := hon.active.hi
      have hcount := hon.active.count
      have hstart : (new ipv6 jumbo).startSearch.potential =
          2 * ((new ipv6 jumbo).max_size - (new ipv6 jumbo).min_size) + 1 := rfl
      have hpos : 0 < s.potential := by
        unfold potential SearchRange.width
        simp only [range_lo, range_hi]
        omega
      omega
    · -- A probe of the size under test gets through or does not.
      rcases le_or_gt s.current_size M with hle | hgt
      · exact ⟨.success, _, truthfulStep_eq_some.mpr ⟨hon.active.phase, hle, rfl⟩⟩
      · exact ⟨.failure, _, truthfulStep_eq_some.mpr ⟨hon.active.phase, hgt, rfl⟩⟩
    · intro o s' hs hgo h2
      rcases (hon.width_step hs hgo).2 with hlt | ⟨-, hnot, -⟩
      · exact hlt
      · exact absurd h2 hnot
    · intro o s₁ s₂ hs₁ hs₂ hgo
      obtain ⟨hon₁, hw₁⟩ := hon.width_step hs₁ (truthfulStep_eq_some.mp hs₂).1
      obtain ⟨-, hw₂⟩ := hon₁.width_step hs₂ hgo
      show s₂.range.width < s.range.width
      -- Either of the two steps narrows the range: if the first only counts `o`, the second is the
      -- second of its kind.
      rcases hw₁ with hw₁ | ⟨hr₁, -, hk₁⟩
      · rcases hw₂ with hw₂ | ⟨hr₂, -⟩
        · exact hw₂.trans hw₁
        · rwa [hr₂]
      · rcases hw₂ with hw₂ | ⟨-, hnot, -⟩
        · rwa [← hr₁]
        · exact absurd hk₁ hnot
  · refine ⟨SearchRange.mem_toSet.mp hset.mem, Or.inr ?_⟩
    -- The discovered MTU is the lower end of a range less than 8 wide, or the reported threshold.
    have hmem := SearchRange.le_lo_add_width hset.mem
    have hexact : ∀ d, s.discovered_mtu = some d → s.phase = .Complete →
        (.fragNeeded M ∈ os ∨ M = (new ipv6 jumbo).max_size → d = M) := by
      intro d hd hphase hor
      rcases hor with hin | htop
      · simpa [hd] using (h.report hin).2
      · simpa [hd] using (h.top htop).2.2 hphase
    rcases hset.ended with hc | ⟨hphase, hfound⟩
    · have hlo := (SearchRange.mem_toSet.mp hset.mem).1
      have hnarrow := hc.narrow
      refine ⟨hc.phase, s.min_size, hc.mtu, hlo, ?_, hexact _ hc.mtu hc.phase⟩
      rw [range_lo] at hmem
      omega
    · exact ⟨hphase, M, hfound, le_rfl, by omega, fun _ => rfl⟩

/-- A report of the threshold 1400 on an IPv4 path. -/
theorem search_single_threshold_1400 :
    ∃ s, run (truthfulStep 1400) (new false false).startSearch [.failure, .fragNeeded 1400] = some s ∧
      s.min_size ≤ 1400 ∧ 1400 ≤ s.max_size :=
  ⟨_, rfl, (search_single_threshold false false 1400 (by decide) (by decide)
    [.failure, .fragNeeded 1400] _ rfl).1⟩

/-! ## A path of several links -/

/-- How a path answers a probe of the size `size` that may not be fragmented: with the MTU of the first
link that is too narrow for it, or not at all. -/
def respond (links : List ℕ) (size : ℕ) : Observation :=
  match links.find? (· < size) with
  | some mtu => .fragNeeded mtu
  | none => .success

/-- One probe of the current size over the path, while the search goes on. -/
def probePath (links : List ℕ) (s : PmtudState) : PmtudState :=
  if s.phase = .Searching then s.observe (respond links s.current_size) else s

/-- A search that is over stays as it is. -/
theorem iterate_probePath_of_complete {links : List ℕ} {s : PmtudState} (h : s.phase = .Complete)
    (n : ℕ) : (probePath links)^[n] s = s := by
  refine Function.iterate_fixed ?_ n
  rw [probePath, if_neg (by simp [h])]

/-- A link narrower than the initial upper bound ends the search at the first probe, with its MTU. -/
theorem probePath_of_bottleneck {ipv6 jumbo : Bool} {links : List ℕ} {mtu : ℕ}
    (h : links.find? (· < (new ipv6 jumbo).max_size) = some mtu) :
    (probePath links (new ipv6 jumbo).startSearch).phase = .Complete ∧
      (probePath links (new ipv6 jumbo).startSearch).discovered_mtu = some mtu := by
  have hlt : mtu < (new ipv6 jumbo).max_size := by simpa using List.find?_some h
  have hstep : probePath links (new ipv6 jumbo).startSearch =
      (new ipv6 jumbo).startSearch.recordFragNeeded mtu := by
    rw [probePath, if_pos (startSearch_phase _), respond, startSearch_current_size, h]
    rfl
  rw [hstep, recordFragNeeded, startSearch_max_size, if_pos hlt]
  exact ⟨rfl, rfl⟩

/-- A path without such a link confirms the initial upper bound with two probes. -/
theorem probePath_of_clear {ipv6 jumbo : Bool} {links : List ℕ}
    (h : links.find? (· < (new ipv6 jumbo).max_size) = none) :
    (probePath links (probePath links (new ipv6 jumbo).startSearch)).phase = .Complete ∧
      (probePath links (probePath links (new ipv6 jumbo).startSearch)).discovered_mtu =
        some (new ipv6 jumbo).max_size := by
  have hstep : ∀ s : PmtudState, s.phase = .Searching → s.current_size = (new ipv6 jumbo).max_size →
      probePath links s = s.recordSuccess := by
    intro s hp hc
    rw [probePath, if_pos hp, respond, hc, h]
    rfl
  rw [hstep (new ipv6 jumbo).startSearch rfl rfl, hstep _ ?_ ?_]
  · cases ipv6 <;> cases jumbo <;> exact ⟨by decide, by decide⟩
  · cases ipv6 <;> cases jumbo <;> rfl
  · cases ipv6 <;> cases jumbo <;> rfl

/-- The search on a path of links within the initial range, driven by two probes or more. It ends with
the MTU of the first link narrower than the initial upper bound, or with that bound when there is no
such link. The narrowest link is at most the result, and every link carries a probe of that size
exactly when no link after the first bottleneck is narrower than it. -/
theorem search_first_bottleneck (ipv6 jumbo : Bool) (links : List ℕ) (hne : links ≠ [])
    (hlinks : ∀ l ∈ links, (new ipv6 jumbo).min_size ≤ l ∧ l ≤ (new ipv6 jumbo).max_size)
    (n : ℕ) (hn : 2 ≤ n) :
    ((probePath links)^[n] (new ipv6 jumbo).startSearch).phase = .Complete ∧
    ∃ d, ((probePath links)^[n] (new ipv6 jumbo).startSearch).discovered_mtu = some d ∧
      (∃ l ∈ links, l ≤ d) ∧
      ((∀ l ∈ links, l = (new ipv6 jumbo).max_size) ∧ d = (new ipv6 jumbo).max_size ∨
        ∃ pre post, links = pre ++ d :: post ∧ (∀ l ∈ pre, l = (new ipv6 jumbo).max_size) ∧
          d < (new ipv6 jumbo).max_size ∧ ((∀ l ∈ links, d ≤ l) ↔ ∀ l ∈ post, d ≤ l)) := by
  -- Two probes end the search, and it stays as they leave it.
  obtain ⟨k, rfl⟩ := Nat.exists_eq_add_of_le' hn
  rw [Function.iterate_add_apply]
  show ((probePath links)^[k] (probePath links (probePath links _))).phase = _ ∧ ∃ d,
    ((probePath links)^[k] (probePath links (probePath links _))).discovered_mtu = _ ∧ _
  cases h : links.find? (· < (new ipv6 jumbo).max_size) with
  | some mtu =>
    obtain ⟨hphase, hfound⟩ := probePath_of_bottleneck h
    have hstay := @iterate_probePath_of_complete links _ hphase 1
    rw [Function.iterate_one] at hstay
    rw [hstay, iterate_probePath_of_complete hphase]
    -- The links before the first bottleneck carry the initial upper bound, so they have that MTU.
    obtain ⟨hlt, pre, post, rfl, hpre⟩ := List.find?_eq_some_iff_append.mp h
    have hlt : mtu < (new ipv6 jumbo).max_size := by simpa using hlt
    have hpre : ∀ l ∈ pre, l = (new ipv6 jumbo).max_size := by
      intro l hl
      have hle := (hlinks l (by simp [hl])).2
      have hge := hpre l hl
      simp only [Bool.not_eq_eq_eq_not, Bool.not_true, decide_eq_false_iff_not, not_lt] at hge
      omega
    refine ⟨hphase, mtu, hfound, ⟨mtu, by simp, le_rfl⟩, Or.inr ⟨pre, post, rfl, hpre, hlt, ?_⟩⟩
    constructor
    · intro hall l hl
      exact hall l (by simp [hl])
    · -- Only the links behind the bottleneck can be narrower than it.
      intro hpost l hl
      rcases List.mem_append.mp hl with hl | hl
      · rw [hpre l hl]
        exact hlt.le
      · rcases List.mem_cons.mp hl with rfl | hl
        · exact le_rfl
        · exact hpost l hl
  | none =>
    obtain ⟨hphase, hfound⟩ := probePath_of_clear h
    rw [iterate_probePath_of_complete hphase]
    have hall : ∀ l ∈ links, l = (new ipv6 jumbo).max_size := by
      intro l hl
      have hle := (hlinks l hl).2
      have hge := List.find?_eq_none.mp h l hl
      simp only [decide_eq_true_eq, not_lt] at hge
      omega
    obtain ⟨l, hl⟩ := List.exists_mem_of_ne_nil links hne
    exact ⟨hphase, _, hfound, ⟨l, hl, (hall l hl).le⟩, Or.inl ⟨hall, rfl⟩⟩

/-- Two bottlenecks, the narrower one behind the wider one. -/
theorem search_first_bottleneck_1400_1300 :
    ∃ d, ((probePath [1400, 1300])^[2] (new false false).startSearch).discovered_mtu = some d ∧
      ∃ l ∈ [1400, 1300], l ≤ d := by
  obtain ⟨-, d, hd, hl, -⟩ := search_first_bottleneck false false [1400, 1300] (by decide) (by decide)
    2 le_rfl
  exact ⟨d, hd, hl⟩

/-- The search does not always find a size that the whole path carries: behind a first bottleneck of
1400 bytes it never sees one of 1300. -/
theorem search_misses_second_bottleneck :
    ¬ ∀ (ipv6 jumbo : Bool) (links : List ℕ), links ≠ [] →
      (∀ l ∈ links, (new ipv6 jumbo).min_size ≤ l ∧ l ≤ (new ipv6 jumbo).max_size) →
      ∃ N, ∀ n, N ≤ n →
        ((probePath links)^[n] (new ipv6 jumbo).startSearch).phase = .Complete ∧
        ∃ d, ((probePath links)^[n] (new ipv6 jumbo).startSearch).discovered_mtu = some d ∧
          (∀ l ∈ links, d ≤ l) ∧ ∃ l ∈ links, l < d + 8 := by
  intro h
  obtain ⟨N, hN⟩ := h false false [1400, 1300] (by decide) (by decide)
  obtain ⟨-, d, hd, hle, -⟩ := hN (N + 1) (Nat.le_succ N)
  rw [Function.iterate_succ_apply, iterate_probePath_of_complete (by decide)] at hd
  have h1400 : d = 1400 := by
    have : (some 1400 : Option ℕ) = some d := hd
    simpa using this.symm
  have := hle 1300 (by decide)
  omega

end PmtudState

end Ttl
