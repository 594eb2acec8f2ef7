import Ttl.State.Tally

/-!
# The aggregates of a hop

A hop counts every event in three places: in its own counters, in the statistics of the responder, and in
the path statistics of the flow. `Hop.aggregate` reads the counters and the sums of the parts, and the
simp lemmas say what each update of a hop does to them. An update that the program makes as one step is
one of four operations on the aggregate, which keep `Aggregate.Agrees`. The fourth is a replayed probe,
which is sent at the hop and in no flow, so that the two sums of sent probes differ by the number of these.
-/

namespace Ttl

/-- The counters of a hop, the sums over its responders and its flows, and its window of results. -/
@[ext]
structure Aggregate where
  sent : ℕ
  received : ℕ
  timeouts : ℕ
  /-- Responses, over the responders. -/
  responders : ℕ
  /-- Probes sent, over the flows. -/
  flow_sent : ℕ
  /-- Responses, over the flows. -/
  flow_received : ℕ
  /-- Timeouts, over the flows. -/
  flow_timeouts : ℕ
  recent : List Bool

namespace Aggregate

/-- No probe. -/
def zero : Aggregate := ⟨0, 0, 0, 0, 0, 0, 0, []⟩

/-- A probe was sent. -/
def addSent (a : Aggregate) : Aggregate :=
  { a with sent := a.sent + 1, flow_sent := a.flow_sent + 1 }

/-- A response arrived. -/
def addResponse (a : Aggregate) : Aggregate :=
  { a with
    received := a.received + 1
    responders := a.responders + 1
    flow_received := a.flow_received + 1
    recent := pushWindow recentWindowSize a.recent true }

/-- A probe timed out. -/
def addTimeout (a : Aggregate) : Aggregate :=
  { a with
    timeouts := a.timeouts + 1
    flow_timeouts := a.flow_timeouts + 1
    recent := pushWindow recentWindowSize a.recent false }

/-- A probe that only a replay knows was sent. -/
def addReplayed (a : Aggregate) : Aggregate := { a with sent := a.sent + 1 }

/-- The counters are the sums of their parts up to the replayed probes, which are in no flow's `sent`, and
the window holds the last of the outcomes. -/
structure Agrees (a : Aggregate) (outcomes : List Bool) (replayed : ℕ) : Prop where
  responders : a.received = a.responders
  flow_received : a.received = a.flow_received
  flow_sent : a.sent = a.flow_sent + replayed
  flow_timeouts : a.timeouts = a.flow_timeouts
  recent : a.recent = outcomes.rtake recentWindowSize

/-- The counters are the sums of their parts, and the window holds the last of the outcomes. -/
structure Consistent (a : Aggregate) (outcomes : List Bool) : Prop where
  responders : a.received = a.responders
  flow_received : a.received = a.flow_received
  flow_sent : a.sent = a.flow_sent
  flow_timeouts : a.timeouts = a.flow_timeouts
  recent : a.recent = outcomes.rtake recentWindowSize

variable {a : Aggregate} {outcomes : List Bool} {replayed : ℕ}

/-- Nothing agrees with no outcomes. -/
theorem agrees_zero : zero.Agrees [] 0 := ⟨rfl, rfl, rfl, rfl, rfl⟩

/-- A sent probe has no outcome yet. -/
theorem Agrees.addSent (h : a.Agrees outcomes replayed) : a.addSent.Agrees outcomes replayed := by
  have hsent : a.sent + 1 = a.flow_sent + 1 + replayed := by
    rw [h.flow_sent]
    omega
  exact ⟨h.responders, h.flow_received, hsent, h.flow_timeouts, h.recent⟩

/-- A response is an outcome. -/
theorem Agrees.addResponse (h : a.Agrees outcomes replayed) :
    a.addResponse.Agrees (outcomes ++ [true]) replayed := by
  have hrecent : pushWindow recentWindowSize a.recent true =
      (outcomes ++ [true]).rtake recentWindowSize := by rw [h.recent, pushWindow_rtake]
  exact ⟨congrArg (· + 1) h.responders, congrArg (· + 1) h.flow_received, h.flow_sent,
    h.flow_timeouts, hrecent⟩

/-- A timeout is an outcome. -/
theorem Agrees.addTimeout (h : a.Agrees outcomes replayed) :
    a.addTimeout.Agrees (outcomes ++ [false]) replayed := by
  have hrecent : pushWindow recentWindowSize a.recent false =
      (outcomes ++ [false]).rtake recentWindowSize := by rw [h.recent, pushWindow_rtake]
  exact ⟨h.responders, h.flow_received, h.flow_sent, congrArg (· + 1) h.flow_timeouts, hrecent⟩

/-- A replayed response is counted apart. -/
theorem Agrees.addReplayed (h : a.Agrees outcomes replayed) :
    a.addReplayed.Agrees outcomes (replayed + 1) := by
  have hsent : a.sent + 1 = a.flow_sent + (replayed + 1) := by
    rw [h.flow_sent]
    omega
  exact ⟨h.responders, h.flow_received, hsent, h.flow_timeouts, h.recent⟩

/-- What a replayed probe leaves out is all that can differ. -/
theorem Agrees.consistent_iff (h : a.Agrees outcomes replayed) :
    a.Consistent outcomes ↔ replayed = 0 := by
  constructor
  · intro hc
    have hsent := hc.flow_sent
    rw [h.flow_sent] at hsent
    omega
  · rintro rfl
    exact ⟨h.responders, h.flow_received, h.flow_sent, h.flow_timeouts, h.recent⟩

end Aggregate

namespace Hop

/-- The aggregate of a hop. -/
def aggregate (h : Hop) : Aggregate where
  sent := h.sent
  received := h.received
  timeouts := h.timeouts
  responders := KeyMap.total h.responders ResponderStats.received
  flow_sent := KeyMap.total h.flow_paths FlowPathStats.sent
  flow_received := KeyMap.total h.flow_paths FlowPathStats.received
  flow_timeouts := KeyMap.total h.flow_paths FlowPathStats.timeouts
  recent := h.recent_results

/-- A new hop has counted nothing. -/
@[simp]
theorem aggregate_new (ttl : UInt8) : (new ttl).aggregate = .zero := rfl

/-- A hop has counted nothing after a reset. -/
@[simp]
theorem aggregate_reset (h : Hop) : h.reset.aggregate = .zero := rfl

/-- A probe is counted as sent. -/
@[simp]
theorem aggregate_recordSent (h : Hop) :
    h.recordSent.aggregate = { h.aggregate with sent := h.aggregate.sent + 1 } := rfl

/-- A timeout is counted, and enters the window. -/
@[simp]
theorem aggregate_recordTimeout (h : Hop) :
    h.recordTimeout.aggregate =
      { h.aggregate with
        timeouts := h.aggregate.timeouts + 1
        recent := pushWindow recentWindowSize h.aggregate.recent false } := rfl

/-- A probe of a flow is counted for the flow. -/
@[simp]
theorem aggregate_recordFlowSent (h : Hop) (f : UInt8) :
    (h.recordFlowSent f).aggregate =
      { h.aggregate with flow_sent := h.aggregate.flow_sent + 1 } := by
  have hsent := @KeyMap.total_upsert _ _ _ h.flow_paths f .default .recordSent FlowPathStats.sent 1 rfl
    fun _ => rfl
  have hreceived := @KeyMap.total_upsert _ _ _ h.flow_paths f .default .recordSent
    FlowPathStats.received 0 rfl fun _ => rfl
  have htimeouts := @KeyMap.total_upsert _ _ _ h.flow_paths f .default .recordSent
    FlowPathStats.timeouts 0 rfl fun _ => rfl
  simp only [aggregate, recordFlowSent, hsent, hreceived, htimeouts, Nat.add_zero]

/-- A response of a flow is counted for the flow. -/
@[simp]
theorem aggregate_recordFlowResponse (h : Hop) (f : UInt8) (ip : IpAddr) :
    (h.recordFlowResponse f ip).aggregate =
      { h.aggregate with flow_received := h.aggregate.flow_received + 1 } := by
  have hsent := @KeyMap.total_upsert _ _ _ h.flow_paths f .default (·.recordResponse ip)
    FlowPathStats.sent 0 rfl fun _ => rfl
  have hreceived := @KeyMap.total_upsert _ _ _ h.flow_paths f .default (·.recordResponse ip)
    FlowPathStats.received 1 rfl fun _ => rfl
  have htimeouts := @KeyMap.total_upsert _ _ _ h.flow_paths f .default (·.recordResponse ip)
    FlowPathStats.timeouts 0 rfl fun _ => rfl
  simp only [aggregate, recordFlowResponse, hsent, hreceived, htimeouts, Nat.add_zero]

/-- A timeout of a flow is counted for the flow. -/
@[simp]
theorem aggregate_recordFlowTimeout (h : Hop) (f : UInt8) :
    (h.recordFlowTimeout f).aggregate =
      { h.aggregate with flow_timeouts := h.aggregate.flow_timeouts + 1 } := by
  have hsent := @KeyMap.total_upsert _ _ _ h.flow_paths f .default .recordTimeout
    FlowPathStats.sent 0 rfl fun _ => rfl
  have hreceived := @KeyMap.total_upsert _ _ _ h.flow_paths f .default .recordTimeout
    FlowPathStats.received 0 rfl fun _ => rfl
  have htimeouts := @KeyMap.total_upsert _ _ _ h.flow_paths f .default .recordTimeout
    FlowPathStats.timeouts 1 rfl fun _ => rfl
  simp only [aggregate, recordFlowTimeout, hsent, hreceived, htimeouts, Nat.add_zero]

/-- The check for NAT counts nothing. -/
@[simp]
theorem aggregate_recordNatCheck (h : Hop) (original returned : Option UInt16) :
    (h.recordNatCheck original returned).aggregate = h.aggregate := by
  unfold recordNatCheck
  split <;> rfl

/-- The TTL of a response counts nothing. -/
@[simp]
theorem aggregate_recordResponseTtl (h : Hop) (ttl : UInt8) :
    (h.recordResponseTtl ttl).aggregate = h.aggregate := rfl

/-- The check of a quoted TTL counts nothing. -/
@[simp]
theorem aggregate_recordTtlManipCheck (h : Hop) (ttl : UInt8) :
    (h.recordTtlManipCheck ttl).aggregate = h.aggregate := rfl

/-- A response is counted for the hop and its responder, and enters the window. -/
@[simp]
theorem aggregate_recordResponseWithExtensions (h : Hop) (ip : IpAddr) (rtt : ℕ)
    (mpls_labels : Option (List MplsLabel)) (interface_info : Option (List IcmpInterfaceInfo)) :
    (h.recordResponseWithExtensions ip rtt mpls_labels interface_info).aggregate =
      { h.aggregate with
        received := h.aggregate.received + 1
        responders := h.aggregate.responders + 1
        recent := pushWindow recentWindowSize h.aggregate.recent true } := by
  -- The responder, which may be new, counts the response.
  have hresponders := @KeyMap.total_upsert _ _ _ h.responders ip (ResponderStats.new ip)
    (fun stats =>
      { stats.recordResponse rtt with
        mpls_labels := mpls_labels.orElse fun _ => (stats.recordResponse rtt).mpls_labels
        interface_info := interface_info.orElse fun _ => (stats.recordResponse rtt).interface_info })
    ResponderStats.received 1 rfl fun stats => stats.recordResponse_received rtt
  simp only [aggregate, recordResponseWithExtensions, updatePrimary, hresponders]

/-- Following the primary responder counts nothing. -/
@[simp]
theorem aggregate_trackFlapPrimary (h : Hop) : h.trackFlapPrimary.aggregate = h.aggregate := by
  unfold trackFlapPrimary
  dsimp only
  split
  · rfl
  · split_ifs <;> rfl

/-- Detecting flaps counts nothing else. -/
@[simp]
theorem aggregate_recordResponseDetectingFlapsWithExtensions (h : Hop) (ip : IpAddr) (rtt : ℕ)
    (mpls_labels : Option (List MplsLabel)) (interface_info : Option (List IcmpInterfaceInfo)) :
    (h.recordResponseDetectingFlapsWithExtensions ip rtt mpls_labels interface_info).aggregate =
      (h.recordResponseWithExtensions ip rtt mpls_labels interface_info).aggregate := by
  have htrack := aggregate_trackFlapPrimary
    (h.recordResponseWithExtensions ip rtt mpls_labels interface_info)
  rw [← htrack]
  -- What follows only sets the tracked primary and the route changes.
  unfold recordResponseDetectingFlapsWithExtensions
  dsimp only
  split
  · split_ifs <;> rfl
  · rfl

end Hop

namespace Session

/-- The aggregate of every hop agrees with the outcomes and the replayed probes at its TTL. -/
def Aggregated (x : Session) (outcomes : UInt8 → List Bool) (replayed : UInt8 → ℕ) : Prop :=
  ∀ k h, x.hop k = some h → h.aggregate.Agrees (outcomes k) (replayed k)

variable {x y : Session} {outcomes outcomes' : UInt8 → List Bool} {replayed replayed' : UInt8 → ℕ}

/-- The hops of a fresh session. -/
theorem hop_new {target : IpAddr} {config : Config} {now : ℕ} {k : UInt8} {h : Hop}
    (hk : (new target config now).hop k = some h) : ∃ ttl, h = Hop.new ttl := by
  unfold hop at hk
  split_ifs at hk
  change ((ttls config.max_ttl).map Hop.new)[k.toNat - 1]? = some h at hk
  rw [List.getElem?_map] at hk
  obtain ⟨ttl, -, rfl⟩ := Option.map_eq_some_iff.mp hk
  exact ⟨ttl, rfl⟩

/-- A new session agrees with no outcomes. -/
theorem aggregated_new (target : IpAddr) (config : Config) (now : ℕ) :
    (new target config now).Aggregated (fun _ => []) fun _ => 0 := by
  intro k h hk
  obtain ⟨ttl, rfl⟩ := hop_new hk
  rw [Hop.aggregate_new]
  exact Aggregate.agrees_zero

/-- A reset forgets the outcomes with the counters. -/
theorem aggregated_resetStats (x : Session) (now : ℕ) :
    (x.resetStats now).Aggregated (fun _ => []) fun _ => 0 := by
  intro k h hk
  unfold hop resetStats at hk
  split_ifs at hk
  rw [List.getElem?_map] at hk
  obtain ⟨h', -, rfl⟩ := Option.map_eq_some_iff.mp hk
  rw [Hop.aggregate_reset]
  exact Aggregate.agrees_zero

/-- An update that keeps the hops. -/
theorem Aggregated.congr (h : x.Aggregated outcomes replayed) (hops : y.hops = x.hops) :
    y.Aggregated outcomes replayed := by
  intro k hop hk
  refine h k hop ?_
  rw [← hk]
  unfold Session.hop
  rw [hops]

/-- An update of one hop, which says nothing of the other TTLs. -/
theorem Aggregated.hopMut (h : x.Aggregated outcomes replayed) {ttl : UInt8} {f : Hop → Hop}
    (hf : ∀ hop : Hop, hop.aggregate.Agrees (outcomes ttl) (replayed ttl) →
      (f hop).aggregate.Agrees (outcomes' ttl) (replayed' ttl))
    (frame : ∀ k, k ≠ ttl → outcomes' k = outcomes k ∧ replayed' k = replayed k) :
    (x.hopMut ttl f).Aggregated outcomes' replayed' := by
  intro k hop hk
  rw [hop_hopMut] at hk
  split_ifs at hk with ht
  · subst ht
    obtain ⟨old, hold, rfl⟩ := Option.map_eq_some_iff.mp hk
    exact hf old (h k old hold)
  · rw [(frame k ht).1, (frame k ht).2]
    exact h k hop hk

/-- What is said of TTLs without a hop does not matter. -/
theorem Aggregated.of_no_hop (h : x.Aggregated outcomes replayed) {ttl : UInt8}
    (none : x.hop ttl = none)
    (frame : ∀ k, k ≠ ttl → outcomes' k = outcomes k ∧ replayed' k = replayed k) :
    x.Aggregated outcomes' replayed' := by
  intro k hop hk
  have ht : k ≠ ttl := by
    rintro rfl
    rw [none] at hk
    cases hk
  rw [(frame k ht).1, (frame k ht).2]
  exact h k hop hk

end Session

end Ttl
