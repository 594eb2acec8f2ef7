import Ttl.Lib.Plurality
import Ttl.State.Hop

/-!
# Hops in every iteration order

`Ttl.State.Hop` takes the order of a map's entries for its iteration order. The `HashMap`s of the source are seeded
at random, so that here each search for the largest count is in an order of its own, and the functions that search
take it as an argument. In the order of the entries they are those of `Ttl.State.Hop`.

`Hop.run` is a hop after any sequence of events, each with the orders that its searches meet the entries in.
-/

namespace Ttl

open Plurality

/-- The orders that an event meets the entries of the two maps in. -/
structure HopOrder where
  responders : IterOrder (Sigma fun _ : IpAddr => ResponderStats)
  responder_counts : IterOrder (Sigma fun _ : IpAddr => ℕ)

/-- `FlowPathStats::record_response`, in an order. -/
def FlowPathStats.recordResponseIn (order : HopOrder) (s : FlowPathStats) (responder : IpAddr) : FlowPathStats :=
  let counts := KeyMap.upsert s.responder_counts responder 0 (· + 1)
  { s with
    received := s.received + 1
    responder_counts := counts
    primary_responder := (pick order.responder_counts id counts).map (·.1) }

namespace Hop

/-- The responder with the most responses, in an order. -/
def leaderIn (order : HopOrder) (h : Hop) : Option (Sigma fun _ : IpAddr => ResponderStats) :=
  pick order.responders ResponderStats.received h.responders

/-- `update_primary`, in an order. -/
def updatePrimaryIn (order : HopOrder) (h : Hop) : Hop := { h with primary := (h.leaderIn order).map (·.1) }

/-- `record_response_with_extensions` up to the update of the primary responder. -/
def recordStats (h : Hop) (ip : IpAddr) (rtt : ℕ) (mpls_labels : Option (List MplsLabel))
    (interface_info : Option (List IcmpInterfaceInfo)) : Hop :=
  { h with
    received := h.received + 1
    responders := KeyMap.upsert h.responders ip (ResponderStats.new ip) fun stats =>
      let stats := stats.recordResponse rtt
      { stats with
        mpls_labels := mpls_labels.orElse fun _ => stats.mpls_labels
        interface_info := interface_info.orElse fun _ => stats.interface_info }
    recent_results := pushWindow recentWindowSize h.recent_results true }

/-- `record_response_with_extensions`, in an order. -/
def recordResponseWithExtensionsIn (order : HopOrder) (h : Hop) (ip : IpAddr) (rtt : ℕ)
    (mpls_labels : Option (List MplsLabel)) (interface_info : Option (List IcmpInterfaceInfo)) : Hop :=
  (h.recordStats ip rtt mpls_labels interface_info).updatePrimaryIn order

/-- The flap tracking of `record_response_detecting_flaps_with_extensions`, in an order. -/
def trackFlapPrimaryIn (order : HopOrder) (h : Hop) : Hop :=
  let current_count := ((h.flap_tracking_primary.bind h.responders.lookup).map (·.received)).getD 0
  match h.leaderIn order with
  | none => h
  | some e =>
    if h.flap_tracking_primary = none ∨ current_count + primaryChangeMargin ≤ e.2.received then
      { h with flap_tracking_primary := some e.1 }
    else h

/-- `record_response_detecting_flaps_with_extensions`, in an order, which is one for both searches: the map does not
change between them. -/
def recordResponseDetectingFlapsWithExtensionsIn (order : HopOrder) (h : Hop) (ip : IpAddr) (rtt : ℕ)
    (mpls_labels : Option (List MplsLabel)) (interface_info : Option (List IcmpInterfaceInfo)) : Hop :=
  let old_flap_primary := h.flap_tracking_primary
  let h := (h.recordResponseWithExtensionsIn order ip rtt mpls_labels interface_info).trackFlapPrimaryIn order
  match old_flap_primary, h.flap_tracking_primary with
  | some old, some new =>
    if minResponsesForFlap ≤ h.received ∧ old ≠ new then
      { h with route_changes := pushWindow maxRouteChanges h.route_changes ⟨old, new, h.received⟩ }
    else h
  | _, _ => h

/-- `record_flow_response`, in an order. -/
def recordFlowResponseIn (order : HopOrder) (h : Hop) (flow_id : UInt8) (responder : IpAddr) : Hop :=
  { h with
    flow_paths := KeyMap.upsert h.flow_paths flow_id .default fun f => f.recordResponseIn order responder }

end Hop

/-- In the order of the entries, the functions of `Ttl.State.Hop`. -/
theorem recordIn_entries (h : Hop) (ip : IpAddr) (rtt : ℕ) (mpls_labels : Option (List MplsLabel))
    (interface_info : Option (List IcmpInterfaceInfo)) (flow_id : UInt8) :
    h.recordResponseWithExtensionsIn ⟨.entries, .entries⟩ ip rtt mpls_labels interface_info =
      h.recordResponseWithExtensions ip rtt mpls_labels interface_info ∧
    h.recordResponseDetectingFlapsWithExtensionsIn ⟨.entries, .entries⟩ ip rtt mpls_labels interface_info =
      h.recordResponseDetectingFlapsWithExtensions ip rtt mpls_labels interface_info ∧
    h.recordFlowResponseIn ⟨.entries, .entries⟩ flow_id ip = h.recordFlowResponse flow_id ip :=
  ⟨rfl, rfl, rfl⟩

/-- One more response is counted for its responder. -/
theorem tallies_recordStats {h : Hop} {responses : List IpAddr}
    (htallies : Tallies h.responders ResponderStats.received responses) (ip : IpAddr) (rtt : ℕ)
    (mpls_labels : Option (List MplsLabel)) (interface_info : Option (List IcmpInterfaceInfo)) :
    Tallies (h.recordStats ip rtt mpls_labels interface_info).responders ResponderStats.received
      (responses ++ [ip]) :=
  htallies.upsert ip rfl fun stats => stats.recordResponse_received rtt

/-! ## Runs -/

/-- What is recorded at a hop. -/
inductive HopEvent where
  | response (ip : IpAddr) (rtt : ℕ) (mpls_labels : Option (List MplsLabel))
      (interface_info : Option (List IcmpInterfaceInfo))
  | flowResponse (flow_id : UInt8) (responder : IpAddr)
  | sent
  | timeout
  | flowSent (flow_id : UInt8)
  | flowTimeout (flow_id : UInt8)
  | natCheck (original returned : Option UInt16)
  | responseTtl (response_ttl : UInt8)
  | ttlManipCheck (quoted_ttl : UInt8)

namespace HopEvent

/-- The address that a response counts for. -/
def responder? : HopEvent → Option IpAddr
  | response ip _ _ _ => some ip
  | _ => none

/-- The address that a response on a flow counts for. -/
def flowResponder? (flow_id : UInt8) : HopEvent → Option IpAddr
  | flowResponse id responder => if id = flow_id then some responder else none
  | _ => none

end HopEvent

namespace Hop

/-- Record an event. `flaps` is whether responses are recorded with the detection of flaps, as they are with a single
flow. -/
def recordIn (flaps : Bool) (order : HopOrder) (h : Hop) : HopEvent → Hop
  | .response ip rtt mpls_labels interface_info =>
    if flaps then h.recordResponseDetectingFlapsWithExtensionsIn order ip rtt mpls_labels interface_info
    else h.recordResponseWithExtensionsIn order ip rtt mpls_labels interface_info
  | .flowResponse flow_id responder => h.recordFlowResponseIn order flow_id responder
  | .sent => h.recordSent
  | .timeout => h.recordTimeout
  | .flowSent flow_id => h.recordFlowSent flow_id
  | .flowTimeout flow_id => h.recordFlowTimeout flow_id
  | .natCheck original returned => h.recordNatCheck original returned
  | .responseTtl response_ttl => h.recordResponseTtl response_ttl
  | .ttlManipCheck quoted_ttl => h.recordTtlManipCheck quoted_ttl

/-- A hop after events, the one at each position in the orders of that position. -/
def run (flaps : Bool) (ttl : UInt8) (orders : ℕ → HopOrder) (events : List HopEvent) : Hop :=
  events.zipIdx.foldl (fun h e => h.recordIn flaps (orders e.2) e.1) (new ttl)

/-- The hops agree in all that responses are recorded in, the flows apart. -/
structure SameResponses (h h' : Hop) : Prop where
  received : h'.received = h.received
  responders : h'.responders = h.responders
  primary : h'.primary = h.primary
  route_changes : h'.route_changes = h.route_changes
  tracked : h'.flap_tracking_primary = h.flap_tracking_primary

/-- The check for NAT changes its own field only. -/
theorem recordNatCheck_eq (h : Hop) (original returned : Option UInt16) :
    ∃ nat_info, h.recordNatCheck original returned = { h with nat_info := nat_info } := by
  cases original with
  | none => exact ⟨h.nat_info, rfl⟩
  | some orig =>
    cases returned with
    | none => exact ⟨h.nat_info, rfl⟩
    | some ret => exact ⟨_, rfl⟩

/-- An event that is no response leaves them alone. -/
theorem recordIn_of_not_response (flaps : Bool) (order : HopOrder) (h : Hop) {e : HopEvent}
    (he : e.responder? = none) : SameResponses h (h.recordIn flaps order e) := by
  cases e with
  | response ip rtt mpls_labels interface_info => cases he
  | natCheck original returned =>
    obtain ⟨nat_info, hnat⟩ := h.recordNatCheck_eq original returned
    rw [recordIn, hnat]
    exact ⟨rfl, rfl, rfl, rfl, rfl⟩
  | _ => exact ⟨rfl, rfl, rfl, rfl, rfl⟩

/-- A run with one event more. -/
theorem run_concat (flaps : Bool) (ttl : UInt8) (orders : ℕ → HopOrder) (events : List HopEvent) (e : HopEvent) :
    run flaps ttl orders (events ++ [e]) =
      (run flaps ttl orders events).recordIn flaps (orders events.length) e := by
  rw [run, List.zipIdx_append, List.foldl_append, ← run, Nat.zero_add]
  rfl

end Hop

end Ttl
