import Mathlib.Tactic.GCongr
import Mathlib.Tactic.Linarith
import Mathlib.Tactic.NormNum
import Mathlib.Tactic.Positivity
import Ttl.Lib.OrderStatistics
import Ttl.State.Primary
import Ttl.State.Samples
import Ttl.State.Stats

/-!
# Percentiles

`percentile` of `src/state/session.rs` is one of the responder's last 256 RTTs, the one at a place of their sorted list
that is nearest to the percentage asked for. `stats_run` says what a responder's statistics are after any events at its
hop, and `percentile_run` what its percentiles then are.
-/

namespace Ttl

open OrderStatistics

/-- `f64::round`: to the nearest whole number, away from zero when there are two. -/
def roundF64 (x : ℚ) : ℤ := if 0 ≤ x then (x + 1 / 2).floor else -(-x + 1 / 2).floor

namespace ResponderStats

/-- The index of a percentile in as many sorted samples. -/
def percentileIndex (count : ℕ) (p : ℚ) : ℕ := min (asU64 (roundF64 (p / 100 * ((count - 1 : ℕ) : ℚ)))) (count - 1)

/-- `percentile`. -/
def percentile (s : ResponderStats) (p : ℚ) : Option ℕ :=
  if s.samples = [] then none
  else
    let sorted := s.samples.insertionSort (· ≤ ·)
    sorted[percentileIndex sorted.length p]?

/-- `p50`. -/
def p50 (s : ResponderStats) : Option ℕ := s.percentile 50

/-- `p95`. -/
def p95 (s : ResponderStats) : Option ℕ := s.percentile 95

/-- `p99`. -/
def p99 (s : ResponderStats) : Option ℕ := s.percentile 99

/-! ## The index -/

section

variable {count : ℕ} {p q : ℚ}

/-- The exact place of a percentile is among the samples. -/
theorem place_mem (hp : 0 ≤ p) (hle : p ≤ 100) :
    0 ≤ p / 100 * ((count - 1 : ℕ) : ℚ) ∧ p / 100 * ((count - 1 : ℕ) : ℚ) ≤ (count - 1 : ℕ) := by
  have hcount : (0 : ℚ) ≤ (count - 1 : ℕ) := Nat.cast_nonneg _
  have hshare : p / 100 ≤ 1 := by linarith
  exact ⟨by positivity, mul_le_of_le_one_left hcount hshare⟩

/-- It is rounded to an index of a sample. -/
theorem percentileIndex_eq (hcount : count ≤ 2^64) (hp : 0 ≤ p) (hle : p ≤ 100) :
    (percentileIndex count p : ℤ) = (p / 100 * ((count - 1 : ℕ) : ℚ) + 1 / 2).floor := by
  obtain ⟨hnonneg, hlast⟩ := @place_mem count p hp hle
  have hfloor : 0 ≤ (p / 100 * ((count - 1 : ℕ) : ℚ) + 1 / 2).floor := by
    rw [Rat.le_floor_iff]
    push_cast
    linarith
  have hsmall : (p / 100 * ((count - 1 : ℕ) : ℚ) + 1 / 2).floor ≤ (count - 1 : ℕ) := by
    rw [← Int.lt_add_one_iff, Rat.floor_lt_iff]
    push_cast
    linarith
  rw [percentileIndex, asU64, Rat.floor_intCast, roundF64, if_pos hnonneg]
  omega

/-- No index is nearer. -/
theorem percentileIndex_near (hcount : count ≤ 2^64) (hp : 0 ≤ p) (hle : p ≤ 100) :
    |(percentileIndex count p : ℚ) - p / 100 * ((count - 1 : ℕ) : ℚ)| ≤ 1 / 2 := by
  have hindex : (percentileIndex count p : ℚ) = ((p / 100 * ((count - 1 : ℕ) : ℚ) + 1 / 2).floor : ℤ) := by
    rw [← percentileIndex_eq hcount hp hle, Int.cast_natCast]
  have hfloor := Rat.floor_le (p / 100 * ((count - 1 : ℕ) : ℚ) + 1 / 2)
  have hnext := Rat.lt_floor_add_one (p / 100 * ((count - 1 : ℕ) : ℚ) + 1 / 2)
  push_cast at hnext
  rw [hindex, abs_le]
  constructor <;> linarith

/-- A higher percentile has no lower index. -/
theorem percentileIndex_mono (hcount : count ≤ 2^64) (hp : 0 ≤ p) (hpq : p ≤ q) (hle : q ≤ 100) :
    percentileIndex count p ≤ percentileIndex count q := by
  have hplace : p / 100 * ((count - 1 : ℕ) : ℚ) ≤ q / 100 * ((count - 1 : ℕ) : ℚ) := by gcongr
  have hfloor := Rat.floor_monotone (add_le_add_left hplace (1 / 2))
  rw [← percentileIndex_eq hcount hp (hpq.trans hle), ← percentileIndex_eq hcount (hp.trans hpq) hle] at hfloor
  exact_mod_cast hfloor

/-- A place that is a whole number is not rounded. -/
theorem percentileIndex_of_place {i : ℕ} (hcount : count ≤ 2^64) (hp : 0 ≤ p) (hle : p ≤ 100)
    (hplace : p / 100 * ((count - 1 : ℕ) : ℚ) = i) : percentileIndex count p = i := by
  obtain ⟨hlow, hhigh⟩ := abs_le.mp (hplace ▸ percentileIndex_near hcount hp hle)
  have hlt : (percentileIndex count p : ℚ) < i + 1 := by linarith
  have hgt : (i : ℚ) < percentileIndex count p + 1 := by linarith
  norm_cast at hlt hgt
  omega

/-- The lowest percentile is the first sample. -/
theorem percentileIndex_zero (hcount : count ≤ 2^64) : percentileIndex count 0 = 0 :=
  percentileIndex_of_place hcount le_rfl (by norm_num) (by simp)

/-- The highest percentile is the last sample. -/
theorem percentileIndex_hundred (hcount : count ≤ 2^64) : percentileIndex count 100 = count - 1 :=
  percentileIndex_of_place hcount (by norm_num) le_rfl (by norm_num)

end

/-! ## The sample -/

/-- The sample at the index. -/
theorem percentile_eq {s : ResponderStats} (hne : s.samples ≠ []) (p : ℚ) :
    ∃ x, s.percentile p = some x ∧ IsNth s.samples (percentileIndex s.samples.length p) x := by
  have hlength : (s.samples.insertionSort (· ≤ ·)).length = s.samples.length := List.length_insertionSort _ _
  have hindex : percentileIndex s.samples.length p < (s.samples.insertionSort (· ≤ ·)).length := by
    have hpos := List.length_pos_iff.mpr hne
    have hle : percentileIndex s.samples.length p ≤ s.samples.length - 1 := Nat.min_le_right _ _
    omega
  refine ⟨_, ?_, isNth_insertionSort hindex⟩
  rw [percentile, if_neg hne]
  dsimp only
  rw [hlength]
  exact List.getElem?_eq_getElem hindex

end ResponderStats

/-! ## Runs -/

/-- The RTT of a response that counts for the address. -/
def HopEvent.rtt? (ip : IpAddr) : HopEvent → Option ℕ
  | response responder rtt _ _ => if responder = ip then some rtt else none
  | _ => none

namespace Hop

/-- The RTTs of the responses that count for the address. -/
def rtts (ip : IpAddr) (events : List HopEvent) : List ℕ := events.filterMap (HopEvent.rtt? ip)

section

variable (flaps : Bool) (ttl : UInt8) (orders : ℕ → HopOrder)

/-- What is kept of a responder beside its statistics does not count. -/
theorem summarises_labels {s : ResponderStats} {rtts : List ℕ} (h : s.Summarises rtts)
    (mpls_labels : Option (List MplsLabel)) (interface_info : Option (List IcmpInterfaceInfo)) :
    { s with mpls_labels := mpls_labels, interface_info := interface_info }.Summarises rtts :=
  ⟨h.received, h.mean_rtt, h.m2, h.min_rtt, h.max_rtt, h.jitter_avg, h.jitter_max, h.last_rtt, h.recent, h.samples⟩

/-- **The statistics of a responder** after any events: there are none before it has responded, and then those of all
its RTTs. -/
theorem stats_run (events : List HopEvent) (ip : IpAddr) :
    ((run flaps ttl orders events).responders.lookup ip = none ↔ rtts ip events = []) ∧
      ∀ s, (run flaps ttl orders events).responders.lookup ip = some s → s.Summarises (rtts ip events) := by
  induction events using List.reverseRecOn with
  | nil =>
    have hempty : (run flaps ttl orders []).responders.lookup ip = none := rfl
    rw [hempty]
    exact ⟨⟨fun _ => rfl, fun _ => rfl⟩, fun s hs => absurd hs.symm (Option.some_ne_none s)⟩
  | append_singleton events e ih =>
    obtain ⟨hnone, hsome⟩ := ih
    have hconcat : rtts ip (events ++ [e]) = rtts ip events ++ (e.rtt? ip).toList := by
      rw [rtts, List.filterMap_append, ← rtts]
      cases he : e.rtt? ip with
      | none => rw [List.filterMap_cons_none he]; rfl
      | some rtt => rw [List.filterMap_cons_some he]; rfl
    rw [run_concat, hconcat]
    cases he : e.responder? with
    | none =>
      -- Nothing else changes the responders.
      have hrtt : e.rtt? ip = none := by
        cases e with
        | response responder rtt mpls_labels interface_info => cases he
        | _ => rfl
      rw [(recordIn_of_not_response flaps _ _ he).responders, hrtt, Option.toList_none, List.append_nil]
      exact ⟨hnone, hsome⟩
    | some responder =>
      obtain ⟨rtt, mpls_labels, interface_info, rfl⟩ : ∃ rtt mpls_labels interface_info,
          e = .response responder rtt mpls_labels interface_info := by
        cases e with
        | response responder' rtt mpls_labels interface_info =>
          obtain rfl := Option.some.inj he
          exact ⟨rtt, mpls_labels, interface_info, rfl⟩
        | _ => cases he
      rw [(recordIn_response _ _ flaps responder rtt mpls_labels interface_info).1, recordStats, KeyMap.lookup_upsert]
      by_cases hip : ip = responder
      · subst hip
        have hbefore : (((run flaps ttl orders events).responders.lookup ip).getD (.new ip)).Summarises
            (rtts ip events) := by
          cases hlookup : (run flaps ttl orders events).responders.lookup ip with
          | none =>
            rw [hnone.mp hlookup]
            exact ResponderStats.summarises_new ip
          | some s => exact hsome s hlookup
        rw [if_pos rfl, HopEvent.rtt?, if_pos rfl, Option.toList_some]
        refine ⟨⟨fun heq => absurd heq (Option.some_ne_none _), fun hnil => absurd hnil
          (List.append_ne_nil_of_right_ne_nil _ (List.cons_ne_nil _ _))⟩, fun s hs => ?_⟩
        rw [← Option.some.inj hs]
        exact summarises_labels hbefore.recordResponse _ _
      · rw [if_neg hip, HopEvent.rtt?, if_neg fun heq => hip heq.symm, Option.toList_none, List.append_nil]
        exact ⟨hnone, hsome⟩

/-- **The percentiles of a responder** after any events. Each is one of its last 256 RTTs, the one at the place of their
sorted list that is nearest to the percentage; a higher percentage gives no smaller RTT, the ends give the least and
the greatest of these RTTs, and none is outside the extremes of all. -/
theorem percentile_run (events : List HopEvent) (ip : IpAddr) (s : ResponderStats)
    (hs : (run flaps ttl orders events).responders.lookup ip = some s) :
    (∀ p, 0 ≤ p → p ≤ 100 → ∃ x i, s.percentile p = some x ∧ IsNth ((rtts ip events).rtake 256) i x ∧
        |(i : ℚ) - p / 100 * ((((rtts ip events).rtake 256).length - 1 : ℕ) : ℚ)| ≤ 1 / 2 ∧
        s.min_rtt ≤ x ∧ x ≤ s.max_rtt) ∧
      (∀ p q x y, 0 ≤ p → p ≤ q → q ≤ 100 → s.percentile p = some x → s.percentile q = some y → x ≤ y) ∧
      (∀ x, s.percentile 0 = some x → IsLeast {rtt | rtt ∈ (rtts ip events).rtake 256} x) ∧
      ∀ x, s.percentile 100 = some x → IsGreatest {rtt | rtt ∈ (rtts ip events).rtake 256} x := by
  obtain ⟨hnone, hsome⟩ := stats_run flaps ttl orders events ip
  have hsummary := hsome s hs
  have hsamples : s.samples = (rtts ip events).rtake 256 := hsummary.samples
  have hlength : s.samples.length = min 256 (rtts ip events).length := by
    rw [hsamples, List.rtake, List.length_drop]
    omega
  have hne : s.samples ≠ [] := by
    have hsome : rtts ip events ≠ [] := fun hnil => by
      rw [hnone.mpr hnil] at hs
      cases hs
    have hpos := List.length_pos_iff.mpr hsome
    exact List.length_pos_iff.mp (by omega)
  have hcount : s.samples.length ≤ 2^64 := by omega
  rw [← hsamples]
  have hnth {p : ℚ} {x : ℕ} (hx : s.percentile p = some x) :
      IsNth s.samples (ResponderStats.percentileIndex s.samples.length p) x := by
    obtain ⟨y, hy, hnth⟩ := ResponderStats.percentile_eq hne p
    rwa [Option.some.inj (hx.symm.trans hy)]
  refine ⟨fun p hp hle => ?_, fun p q x y hp hpq hle hx hy => ?_, fun x hx => ?_, fun x hx => ?_⟩
  · obtain ⟨x, hx, hxnth⟩ := ResponderStats.percentile_eq hne p
    have hmem : x ∈ rtts ip events := List.mem_of_mem_drop (hsamples ▸ hxnth.mem)
    exact ⟨x, _, hx, hxnth, ResponderStats.percentileIndex_near hcount hp hle,
      hsummary.min_rtt.2 (List.mem_cons_of_mem _ hmem), hsummary.max_rtt.2 (List.mem_cons_of_mem _ hmem)⟩
  · exact (hnth hx).mono (hnth hy) (ResponderStats.percentileIndex_mono hcount hp hpq hle)
  · exact IsNth.isLeast (ResponderStats.percentileIndex_zero hcount ▸ hnth hx)
  · exact IsNth.isGreatest (ResponderStats.percentileIndex_hundred hcount ▸ hnth hx)

end

/-- Three responses of one router. -/
def sampleResponses : List HopEvent :=
  [.response (.V4 ⟨10, 0, 0, 1⟩) 1000000 none none, .response (.V4 ⟨10, 0, 0, 1⟩) 4000000 none none, .timeout,
    .response (.V4 ⟨10, 0, 0, 1⟩) 2000000 none none]

/-- The median of three RTTs is the one in the middle. -/
theorem percentile_run_sample : ∃ s,
    (run true 5 (fun _ => ⟨.entries, .entries⟩) sampleResponses).responders.lookup (.V4 ⟨10, 0, 0, 1⟩) = some s ∧
      s.p50 = some 2000000 := by
  have hresponds : (run true 5 (fun _ => ⟨.entries, .entries⟩) sampleResponses).responders.lookup
      (.V4 ⟨10, 0, 0, 1⟩) ≠ none := by
    rw [ne_eq, (stats_run true 5 (fun _ => ⟨.entries, .entries⟩) sampleResponses _).1]
    decide
  obtain ⟨s, hs⟩ := Option.ne_none_iff_exists'.mp hresponds
  obtain ⟨hnth, -⟩ := percentile_run true 5 (fun _ => ⟨.entries, .entries⟩) sampleResponses _ s hs
  obtain ⟨x, i, hx, hxnth, hnear, -⟩ := hnth 50 (by norm_num) (by norm_num)
  have hwindow : (rtts (.V4 ⟨10, 0, 0, 1⟩) sampleResponses).rtake 256 = [1000000, 4000000, 2000000] := by decide
  rw [hwindow] at hxnth hnear
  have hi : i = 1 := by
    obtain ⟨hlow, hhigh⟩ := abs_le.mp hnear
    norm_num at hlow hhigh
    have hlt : (i : ℚ) < 2 := by linarith
    have hgt : (0 : ℚ) < i := by linarith
    norm_cast at hlt hgt
    omega
  have hmiddle : IsNth [1000000, 4000000, 2000000] 1 2000000 := by
    refine ⟨?_, ?_, ?_⟩ <;> decide
  exact ⟨s, hs, hx.trans (congrArg some (IsNth.unique (hi ▸ hxnth) hmiddle))⟩

end Hop

end Ttl
