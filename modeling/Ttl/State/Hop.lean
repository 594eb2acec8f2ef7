import Ttl.Lib.Collections
import Ttl.State.Types
import Mathlib.Data.Rat.Defs
import Mathlib.Algebra.Order.Ring.Rat

/-!
# Statistics of a hop

`Hop` of `src/state/session.rs` with all that it aggregates: a `ResponderStats` for each address that
answered, a `FlowPathStats` for each flow, and the three detectors that look at single responses.
Counters are natural numbers, and the source's `f64` values are rationals.
-/

namespace Ttl

/-- `RECENT_WINDOW_SIZE`. -/
def recentWindowSize : ℕ := 60

/-- `ResponderStats`: the responses of one address at one hop. -/
structure ResponderStats where
  ip : IpAddr
  /-- The name that the DNS worker has found. -/
  hostname : Option (List Char)
  /-- MPLS labels of the last response that had any. -/
  mpls_labels : Option (List MplsLabel)
  /-- Interface information of the last response that had any. -/
  interface_info : Option (List IcmpInterfaceInfo)
  received : ℕ
  min_rtt : ℕ
  max_rtt : ℕ
  /-- Mean of the RTTs, in microseconds. -/
  mean_rtt : ℚ
  /-- Sum of squared deviations. -/
  m2 : ℚ
  /-- Smoothed jitter, in microseconds. -/
  jitter : ℚ
  jitter_avg : ℚ
  jitter_max : ℚ
  last_rtt : Option ℕ
  /-- Rolling window for the sparkline. -/
  recent : List (Option ℕ)
  /-- Sample history for percentiles. -/
  samples : List ℕ
deriving DecidableEq

namespace ResponderStats

/-- `MAX_SAMPLES`. -/
def maxSamples : ℕ := 256

/-- `ResponderStats::new`. -/
def new (ip : IpAddr) : ResponderStats where
  ip := ip
  hostname := none
  mpls_labels := none
  interface_info := none
  received := 0
  min_rtt := durationMax
  max_rtt := 0
  mean_rtt := 0
  m2 := 0
  jitter := 0
  jitter_avg := 0
  jitter_max := 0
  last_rtt := none
  recent := []
  samples := []

/-- The jitter step of `record_response`: nothing before the second sample. -/
def recordJitter (s : ResponderStats) (rtt : ℕ) : ResponderStats :=
  match s.last_rtt with
  | none => s
  | some last =>
    let diff : ℚ := |(asMicros rtt : ℚ) - asMicros last|
    { s with
      jitter := s.jitter + (diff - s.jitter) / 16
      jitter_max := if s.jitter_max < diff then diff else s.jitter_max
      jitter_avg := s.jitter_avg + (diff - s.jitter_avg) / (s.received - 1) }

/-- `record_response`: a new RTT sample. -/
def recordResponse (s : ResponderStats) (rtt : ℕ) : ResponderStats :=
  let received := s.received + 1
  let delta : ℚ := asMicros rtt - s.mean_rtt
  let mean := s.mean_rtt + delta / received
  -- The jitter step divides by the number of samples, the new one included.
  let s := recordJitter
    { s with
      received := received
      min_rtt := if rtt < s.min_rtt then rtt else s.min_rtt
      max_rtt := if s.max_rtt < rtt then rtt else s.max_rtt
      mean_rtt := mean
      m2 := s.m2 + delta * (asMicros rtt - mean) } rtt
  { s with
    last_rtt := some rtt
    recent := pushWindow recentWindowSize s.recent (some rtt)
    samples := pushWindow maxSamples s.samples rtt }

/-- The jitter is apart from the counters and the extremes. -/
@[simp]
theorem recordJitter_counts (s : ResponderStats) (rtt : ℕ) :
    (s.recordJitter rtt).received = s.received ∧ (s.recordJitter rtt).min_rtt = s.min_rtt ∧
      (s.recordJitter rtt).max_rtt = s.max_rtt := by
  unfold recordJitter
  split <;> simp

/-- A response is received. -/
@[simp]
theorem recordResponse_received (s : ResponderStats) (rtt : ℕ) :
    (s.recordResponse rtt).received = s.received + 1 := by
  simp [recordResponse]

/-- The minimum is that of the round-trip times. -/
@[simp]
theorem recordResponse_min_rtt (s : ResponderStats) (rtt : ℕ) :
    (s.recordResponse rtt).min_rtt = min rtt s.min_rtt := by
  simp only [recordResponse, recordJitter_counts]
  split_ifs <;> omega

/-- The maximum is that of the round-trip times. -/
@[simp]
theorem recordResponse_max_rtt (s : ResponderStats) (rtt : ℕ) :
    (s.recordResponse rtt).max_rtt = max rtt s.max_rtt := by
  simp only [recordResponse, recordJitter_counts]
  split_ifs <;> omega

end ResponderStats

/-- `FlowPathStats`: one flow's probes at a hop. -/
structure FlowPathStats where
  sent : ℕ
  received : ℕ
  timeouts : ℕ
  /-- The responder seen most often on this flow. -/
  primary_responder : Option IpAddr
  /-- Responses per responder. -/
  responder_counts : KeyMap IpAddr ℕ

namespace FlowPathStats

/-- `FlowPathStats::default`. -/
def default : FlowPathStats where
  sent := 0
  received := 0
  timeouts := 0
  primary_responder := none
  responder_counts := ∅

/-- `record_sent`. -/
def recordSent (s : FlowPathStats) : FlowPathStats := { s with sent := s.sent + 1 }

/-- `record_response`. -/
def recordResponse (s : FlowPathStats) (responder : IpAddr) : FlowPathStats :=
  let counts := KeyMap.upsert s.responder_counts responder 0 (· + 1)
  { s with
    received := s.received + 1
    responder_counts := counts
    primary_responder := (maxByKey (fun e => e.2) counts.entries).map (·.1) }

/-- `record_timeout`. -/
def recordTimeout (s : FlowPathStats) : FlowPathStats := { s with timeouts := s.timeouts + 1 }

end FlowPathStats

/-- `NatInfo`: source ports that came back as sent, and those that did not. -/
structure NatInfo where
  port_matched : ℕ
  port_rewritten : ℕ
  /-- The first rewritten ports, original and returned. -/
  rewrite_samples : List (UInt16 × UInt16)
deriving DecidableEq

namespace NatInfo

/-- `MAX_SAMPLES`. -/
def maxSamples : ℕ := 10

/-- `NatInfo::default`. -/
def default : NatInfo := ⟨0, 0, []⟩

/-- `record_match`. -/
def recordMatch (n : NatInfo) : NatInfo := { n with port_matched := n.port_matched + 1 }

/-- `record_rewrite`. -/
def recordRewrite (n : NatInfo) (original returned : UInt16) : NatInfo :=
  { n with
    port_rewritten := n.port_rewritten + 1
    rewrite_samples :=
      if n.rewrite_samples.length < maxSamples then n.rewrite_samples ++ [(original, returned)]
      else n.rewrite_samples }

end NatInfo

/-- `RouteChange`: the tracked primary responder of a hop moved. -/
structure RouteChange where
  from_ip : IpAddr
  to_ip : IpAddr
  /-- Responses of the hop when the change was seen. -/
  at_seq : ℕ
deriving DecidableEq

/-- `estimate_return_hops`: from the smallest usual initial TTL that is not below the observed one. -/
def estimateReturnHops (response_ttl : UInt8) : UInt8 :=
  let init_ttl := (([64, 128, 255] : List UInt8).find? fun d => response_ttl ≤ d).getD 255
  if response_ttl ≤ init_ttl then init_ttl - response_ttl else 0

/-- `AsymmetryInfo`: how the return path's length compares with the forward path's. -/
structure AsymmetryInfo where
  asymmetric_samples : ℕ
  symmetric_samples : ℕ
  suspected : Bool
  confidence : ℚ
  avg_hop_difference : ℚ
  last_return_hops : Option UInt8
  variance : ℚ
  m2 : ℚ
  mean_diff : ℚ
deriving DecidableEq

namespace AsymmetryInfo

/-- `ASYMMETRY_THRESHOLD`. -/
def asymmetryThreshold : ℤ := 3

/-- `MIN_SAMPLES`. -/
def minSamples : ℕ := 5

/-- `AsymmetryInfo::default`. -/
def default : AsymmetryInfo := ⟨0, 0, false, 0, 0, none, 0, 0, 0⟩

/-- `record_response`: a response TTL at the hop `forward_ttl`. -/
def recordResponse (a : AsymmetryInfo) (forward_ttl response_ttl : UInt8) : AsymmetryInfo :=
  let return_hops := estimateReturnHops response_ttl
  let diff : ℤ := |(return_hops.toNat : ℤ) - forward_ttl.toNat|
  let total := a.asymmetric_samples + a.symmetric_samples
  let n : ℚ := total + 1
  let delta := diff - a.mean_diff
  let mean_diff := a.mean_diff + delta / n
  let m2 := a.m2 + delta * (diff - mean_diff)
  let asymmetric := if asymmetryThreshold ≤ diff then a.asymmetric_samples + 1
    else a.asymmetric_samples
  let symmetric := if asymmetryThreshold ≤ diff then a.symmetric_samples
    else a.symmetric_samples + 1
  let confidence : ℚ := if minSamples ≤ total + 1 then (asymmetric : ℚ) / n else a.confidence
  { asymmetric_samples := asymmetric
    symmetric_samples := symmetric
    suspected := if minSamples ≤ total + 1 then confidence > 1 / 2 else a.suspected
    confidence := confidence
    avg_hop_difference := (a.avg_hop_difference * total + diff) / n
    last_return_hops := some return_hops
    variance := if 1 < n then m2 / (n - 1) else 0
    m2 := m2
    mean_diff := mean_diff }

end AsymmetryInfo

/-- `TtlManipInfo`: quoted TTLs that a plain path would not show. -/
structure TtlManipInfo where
  normal_samples : ℕ
  anomalous_samples : ℕ
  no_decrement_samples : ℕ
  suspected : Bool
  confidence : ℚ
  reason : Option String
  last_quoted_ttl : Option UInt8
  /-- Hysteresis counter, a `u8`. -/
  negative_checks : ℕ
deriving DecidableEq

namespace TtlManipInfo

/-- `MIN_SAMPLES`. -/
def minSamples : ℕ := 5

/-- `ANOMALY_THRESHOLD`. -/
def anomalyThreshold : ℚ := 3 / 10

/-- `CLEAR_THRESHOLD`. -/
def clearThreshold : ℕ := 10

/-- `TtlManipInfo::default`. -/
def default : TtlManipInfo := ⟨0, 0, 0, false, 0, none, none, 0⟩

/-- `build_reason`. -/
def buildReason (t : TtlManipInfo) : String :=
  if 0 < t.no_decrement_samples then "TTL not decremented (transparent proxy?)"
  else "Quoted TTL > 1 in " ++ toString t.anomalous_samples ++ " samples"

/-- `update_detection`. -/
def updateDetection (t : TtlManipInfo) : TtlManipInfo :=
  let total := t.normal_samples + t.anomalous_samples
  -- Enough clean samples in a row withdraw the suspicion.
  if clearThreshold ≤ t.negative_checks then
    { t with
      suspected := false
      confidence := 0
      reason := none
      negative_checks := 0
      anomalous_samples := 0
      no_decrement_samples := 0 }
  else if minSamples ≤ total then
    let anomaly_rate : ℚ := t.anomalous_samples / total
    if anomalyThreshold ≤ anomaly_rate ∨ 0 < t.no_decrement_samples then
      { t with
        suspected := true
        confidence := if 0 < t.no_decrement_samples then 9 / 10
          else 1 / 2 + min (anomaly_rate * (4 / 10)) (4 / 10)
        reason := some t.buildReason }
    else t
  else t

/-- `record_sample`: a quoted TTL in an answer to a probe sent with `sent_ttl`. -/
def recordSample (t : TtlManipInfo) (sent_ttl quoted_ttl : UInt8) : TtlManipInfo :=
  let t := { t with last_quoted_ttl := some quoted_ttl }
  let t :=
    if 1 < quoted_ttl then
      { t with anomalous_samples := t.anomalous_samples + 1, negative_checks := 0 }
    else
      { t with
        normal_samples := t.normal_samples + 1
        negative_checks :=
          if t.suspected then min (t.negative_checks + 1) 255 else t.negative_checks }
  -- A TTL that comes back as it was sent counts for itself, besides being anomalous.
  let t :=
    if quoted_ttl = sent_ttl ∧ 1 < sent_ttl then
      { t with no_decrement_samples := t.no_decrement_samples + 1, negative_checks := 0 }
    else t
  t.updateDetection

end TtlManipInfo

/-- `RateLimitInfo`: a loss that may be one of ICMP responses only. -/
structure RateLimitInfo where
  suspected : Bool
  confidence : ℚ
  reason : Option String
  /-- Loss percentage of the hop. -/
  hop_loss : ℚ
  /-- Loss percentage of the next responding hop. -/
  downstream_loss : Option ℚ
  /-- Hysteresis counter, a `u8`. -/
  negative_checks : ℕ
deriving DecidableEq

/-- `Hop`: one TTL of the path. -/
structure Hop where
  ttl : UInt8
  sent : ℕ
  received : ℕ
  /-- Probes that timed out. -/
  timeouts : ℕ
  responders : KeyMap IpAddr ResponderStats
  /-- The responder seen most often. -/
  primary : Option IpAddr
  /-- Rolling window of results, `true` for a response. -/
  recent_results : List Bool
  /-- Statistics of each flow. -/
  flow_paths : KeyMap UInt8 FlowPathStats
  nat_info : Option NatInfo
  rate_limit : Option RateLimitInfo
  route_changes : List RouteChange
  asymmetry : Option AsymmetryInfo
  ttl_manip : Option TtlManipInfo
  /-- The primary responder with hysteresis, for flap detection. -/
  flap_tracking_primary : Option IpAddr

namespace Hop

/-- `PRIMARY_CHANGE_MARGIN`. -/
def primaryChangeMargin : ℕ := 2

/-- `MIN_RESPONSES_FOR_FLAP`. -/
def minResponsesForFlap : ℕ := 5

/-- `MAX_ROUTE_CHANGES`. -/
def maxRouteChanges : ℕ := 50

/-- `Hop::new`. -/
def new (ttl : UInt8) : Hop where
  ttl := ttl
  sent := 0
  received := 0
  timeouts := 0
  responders := ∅
  primary := none
  recent_results := []
  flow_paths := ∅
  nat_info := none
  rate_limit := none
  route_changes := []
  asymmetry := none
  ttl_manip := none
  flap_tracking_primary := none

/-- `record_sent`. -/
def recordSent (h : Hop) : Hop := { h with sent := h.sent + 1 }

/-- The responder with the most responses. -/
def leader (h : Hop) : Option (Sigma fun _ : IpAddr => ResponderStats) :=
  maxByKey (fun e => e.2.received) h.responders.entries

/-- `update_primary`. -/
def updatePrimary (h : Hop) : Hop := { h with primary := h.leader.map (·.1) }

/-- `record_response_with_extensions`. -/
def recordResponseWithExtensions (h : Hop) (ip : IpAddr) (rtt : ℕ)
    (mpls_labels : Option (List MplsLabel)) (interface_info : Option (List IcmpInterfaceInfo)) :
    Hop :=
  updatePrimary
    { h with
      received := h.received + 1
      responders := KeyMap.upsert h.responders ip (ResponderStats.new ip) fun stats =>
        let stats := stats.recordResponse rtt
        { stats with
          mpls_labels := mpls_labels.orElse fun _ => stats.mpls_labels
          interface_info := interface_info.orElse fun _ => stats.interface_info }
      recent_results := pushWindow recentWindowSize h.recent_results true }

/-- The flap tracking of `record_response_detecting_flaps_with_extensions`: the tracked primary moves
to the leader when there was none, or when the leader is ahead of it by the margin. -/
def trackFlapPrimary (h : Hop) : Hop :=
  let current_count :=
    ((h.flap_tracking_primary.bind h.responders.lookup).map (·.received)).getD 0
  match h.leader with
  | none => h
  | some e =>
    if h.flap_tracking_primary = none ∨ current_count + primaryChangeMargin ≤ e.2.received then
      { h with flap_tracking_primary := some e.1 }
    else h

/-- `record_response_detecting_flaps_with_extensions`. -/
def recordResponseDetectingFlapsWithExtensions (h : Hop) (ip : IpAddr) (rtt : ℕ)
    (mpls_labels : Option (List MplsLabel)) (interface_info : Option (List IcmpInterfaceInfo)) :
    Hop :=
  let old_flap_primary := h.flap_tracking_primary
  let h := (h.recordResponseWithExtensions ip rtt mpls_labels interface_info).trackFlapPrimary
  match old_flap_primary, h.flap_tracking_primary with
  | some old, some new =>
    -- Both ends are known here: the first primary of a hop is no change.
    if minResponsesForFlap ≤ h.received ∧ old ≠ new then
      { h with
        route_changes := pushWindow maxRouteChanges h.route_changes ⟨old, new, h.received⟩ }
    else h
  | _, _ => h

/-- `record_response_with_mpls`. -/
def recordResponseWithMpls (h : Hop) (ip : IpAddr) (rtt : ℕ)
    (mpls_labels : Option (List MplsLabel)) : Hop :=
  h.recordResponseWithExtensions ip rtt mpls_labels none

/-- `record_response_detecting_flaps`. -/
def recordResponseDetectingFlaps (h : Hop) (ip : IpAddr) (rtt : ℕ)
    (mpls_labels : Option (List MplsLabel)) : Hop :=
  h.recordResponseDetectingFlapsWithExtensions ip rtt mpls_labels none

/-- `record_timeout`. -/
def recordTimeout (h : Hop) : Hop :=
  { h with
    timeouts := h.timeouts + 1
    recent_results := pushWindow recentWindowSize h.recent_results false }

/-- `record_flow_sent`. -/
def recordFlowSent (h : Hop) (flow_id : UInt8) : Hop :=
  { h with flow_paths := KeyMap.upsert h.flow_paths flow_id .default .recordSent }

/-- `record_flow_response`. -/
def recordFlowResponse (h : Hop) (flow_id : UInt8) (responder : IpAddr) : Hop :=
  { h with
    flow_paths := KeyMap.upsert h.flow_paths flow_id .default fun f => f.recordResponse responder }

/-- `record_flow_timeout`. -/
def recordFlowTimeout (h : Hop) (flow_id : UInt8) : Hop :=
  { h with flow_paths := KeyMap.upsert h.flow_paths flow_id .default .recordTimeout }

/-- `record_nat_check`: nothing without both ports. -/
def recordNatCheck (h : Hop) (original returned : Option UInt16) : Hop :=
  match original, returned with
  | some orig, some ret =>
    let nat_info := h.nat_info.getD .default
    { h with
      nat_info := some
        (if orig = ret then nat_info.recordMatch else nat_info.recordRewrite orig ret) }
  | _, _ => h

/-- `record_response_ttl`. -/
def recordResponseTtl (h : Hop) (response_ttl : UInt8) : Hop :=
  { h with asymmetry := some ((h.asymmetry.getD .default).recordResponse h.ttl response_ttl) }

/-- `record_ttl_manip_check`. -/
def recordTtlManipCheck (h : Hop) (quoted_ttl : UInt8) : Hop :=
  { h with ttl_manip := some ((h.ttl_manip.getD .default).recordSample h.ttl quoted_ttl) }

/-- A hop as `reset_stats` leaves it. -/
def reset (h : Hop) : Hop := new h.ttl

end Hop

end Ttl
