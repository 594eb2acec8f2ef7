import Ttl.State.HopOrder

/-!
# Primary responders

`update_primary` and `FlowPathStats::record_response` take the last of the responders with the largest count that an
iteration over a `HashMap` meets. The counts are those of the responses, so that the result is a function of the
responses when one responder has more of them than every other, and up to the order of the map when several are level
(`primary_deterministic_iff`).
-/

namespace Ttl

open Plurality

namespace Hop

/-- The primary responder of a flow. -/
def flowPrimary (h : Hop) (flow_id : UInt8) : Option IpAddr :=
  (h.flow_paths.lookup flow_id).bind FlowPathStats.primary_responder

/-- The statistics of a flow. -/
def flow (h : Hop) (flow_id : UInt8) : FlowPathStats := (h.flow_paths.lookup flow_id).getD .default

/-- The primary responder of a flow is that of its statistics. -/
theorem flowPrimary_eq (h : Hop) (flow_id : UInt8) : h.flowPrimary flow_id = (h.flow flow_id).primary_responder := by
  unfold flowPrimary flow
  cases h.flow_paths.lookup flow_id with
  | none => rfl
  | some stats => rfl

section

variable (order : HopOrder) (h : Hop)

/-- The flap detection touches the tracked primary responder and the changes only. -/
theorem recordResponseDetectingFlaps_frame (ip : IpAddr) (rtt : ℕ) (mpls_labels : Option (List MplsLabel))
    (interface_info : Option (List IcmpInterfaceInfo)) :
    ∃ tracked changes,
      h.recordResponseDetectingFlapsWithExtensionsIn order ip rtt mpls_labels interface_info =
        { h.recordResponseWithExtensionsIn order ip rtt mpls_labels interface_info with
          flap_tracking_primary := tracked, route_changes := changes } := by
  obtain ⟨h', hh'⟩ : ∃ h', h' = h.recordResponseWithExtensionsIn order ip rtt mpls_labels interface_info := ⟨_, rfl⟩
  have htrack : ∃ tracked, h'.trackFlapPrimaryIn order = { h' with flap_tracking_primary := tracked } := by
    unfold trackFlapPrimaryIn
    dsimp only
    cases h'.leaderIn order with
    | none => exact ⟨h'.flap_tracking_primary, rfl⟩
    | some e =>
      dsimp only
      split_ifs
      · exact ⟨_, rfl⟩
      · exact ⟨h'.flap_tracking_primary, rfl⟩
  obtain ⟨tracked, htracked⟩ := htrack
  unfold recordResponseDetectingFlapsWithExtensionsIn
  rw [← hh', htracked]
  cases h.flap_tracking_primary with
  | none => exact ⟨tracked, h'.route_changes, rfl⟩
  | some old =>
    cases tracked with
    | none => exact ⟨none, h'.route_changes, rfl⟩
    | some new =>
      dsimp only
      split_ifs
      · exact ⟨some new, _, rfl⟩
      · exact ⟨some new, h'.route_changes, rfl⟩

/-- What a response does to the responders and their primary one, with and without the detection of flaps. -/
theorem recordIn_response (flaps : Bool) (ip : IpAddr) (rtt : ℕ) (mpls_labels : Option (List MplsLabel))
    (interface_info : Option (List IcmpInterfaceInfo)) :
    (h.recordIn flaps order (.response ip rtt mpls_labels interface_info)).responders =
        (h.recordStats ip rtt mpls_labels interface_info).responders ∧
      (h.recordIn flaps order (.response ip rtt mpls_labels interface_info)).primary =
        (pick order.responders ResponderStats.received
          (h.recordStats ip rtt mpls_labels interface_info).responders).map (·.1) ∧
      (h.recordIn flaps order (.response ip rtt mpls_labels interface_info)).flow_paths = h.flow_paths := by
  cases flaps with
  | false => exact ⟨rfl, rfl, rfl⟩
  | true =>
    obtain ⟨tracked, changes, heq⟩ :=
      recordResponseDetectingFlaps_frame order h ip rtt mpls_labels interface_info
    rw [recordIn, if_pos rfl, heq]
    exact ⟨rfl, rfl, rfl⟩

/-- What a response on a flow does to the flow. -/
theorem flow_recordFlowResponseIn (flow_id : UInt8) (responder : IpAddr) (id : UInt8) :
    (h.recordFlowResponseIn order flow_id responder).flow id =
      if id = flow_id then (h.flow flow_id).recordResponseIn order responder else h.flow id := by
  unfold flow recordFlowResponseIn
  rw [KeyMap.lookup_upsert]
  split_ifs
  · rfl
  · rfl

/-- No other event counts on a flow. -/
theorem recordIn_of_not_flowResponse (flaps : Bool) {e : HopEvent} {flow_id : UInt8}
    (he : e.flowResponder? flow_id = none) :
    ((h.recordIn flaps order e).flow flow_id).responder_counts = (h.flow flow_id).responder_counts ∧
      ((h.recordIn flaps order e).flow flow_id).primary_responder = (h.flow flow_id).primary_responder := by
  have hupsert (id : UInt8) (g : FlowPathStats → FlowPathStats) (hg : ∀ s, (g s).responder_counts = s.responder_counts ∧
      (g s).primary_responder = s.primary_responder) :
      (((KeyMap.upsert h.flow_paths id .default g).lookup flow_id).getD .default).responder_counts =
          (h.flow flow_id).responder_counts ∧
        (((KeyMap.upsert h.flow_paths id .default g).lookup flow_id).getD .default).primary_responder =
          (h.flow flow_id).primary_responder := by
    rw [KeyMap.lookup_upsert]
    split_ifs with hid
    · rw [hid]
      exact hg _
    · exact ⟨rfl, rfl⟩
  cases e with
  | response ip rtt mpls_labels interface_info =>
    have hflows := (recordIn_response order h flaps ip rtt mpls_labels interface_info).2.2
    unfold flow
    rw [hflows]
    exact ⟨rfl, rfl⟩
  | flowResponse id responder =>
    have hid : flow_id ≠ id := by
      rintro rfl
      rw [HopEvent.flowResponder?, if_pos rfl] at he
      cases he
    rw [recordIn, flow_recordFlowResponseIn, if_neg hid]
    exact ⟨rfl, rfl⟩
  | flowSent id => exact hupsert id _ fun s => ⟨rfl, rfl⟩
  | flowTimeout id => exact hupsert id _ fun s => ⟨rfl, rfl⟩
  | natCheck original returned =>
    obtain ⟨nat_info, hnat⟩ := h.recordNatCheck_eq original returned
    rw [recordIn, hnat]
    exact ⟨rfl, rfl⟩
  | _ => exact ⟨rfl, rfl⟩

end

/-! ## Runs -/

section

variable (flaps : Bool) (ttl : UInt8) (orders : ℕ → HopOrder)

/-- Nothing is found in an empty map. -/
theorem pick_empty {K V : Type} [DecidableEq K] (order : IterOrder (Sigma fun _ : K => V)) (f : V → ℕ) :
    pick order f (∅ : KeyMap K V) = none :=
  (tallies_empty f).pick_eq_none_iff.mpr rfl

/-- After every run the responders count the responses, and the primary one was found in one of the orders. -/
theorem primary_run (events : List HopEvent) :
    Tallies (run flaps ttl orders events).responders ResponderStats.received (events.filterMap HopEvent.responder?) ∧
      ∃ i, (run flaps ttl orders events).primary =
        (pick (orders i).responders ResponderStats.received (run flaps ttl orders events).responders).map (·.1) := by
  induction events using List.reverseRecOn with
  | nil =>
    refine ⟨tallies_empty _, 0, ?_⟩
    have hnone := pick_empty (orders 0).responders ResponderStats.received
    exact (congrArg (Option.map fun e => e.1) hnone).symm
  | append_singleton events e ih =>
    obtain ⟨htallies, i, hprimary⟩ := ih
    rw [run_concat, List.filterMap_append]
    -- Only a response changes the counts, and it also looks for the primary responder anew, in its own order.
    cases he : e.responder? with
    | none =>
      have hsame := recordIn_of_not_response flaps (orders events.length) (run flaps ttl orders events) he
      rw [List.filterMap_cons_none he, hsame.responders, hsame.primary, List.filterMap_nil, List.append_nil]
      exact ⟨htallies, i, hprimary⟩
    | some ip =>
      cases e with
      | response ip' rtt mpls_labels interface_info =>
        obtain rfl := Option.some.inj he
        obtain ⟨hresponders, hfound, -⟩ := recordIn_response (orders events.length) (run flaps ttl orders events) flaps
          ip' rtt mpls_labels interface_info
        rw [List.filterMap_cons_some he, hresponders, hfound, List.filterMap_nil]
        exact ⟨tallies_recordStats htallies ip' rtt mpls_labels interface_info, events.length, rfl⟩
      | _ => cases he

/-- So do the counts of a flow, and its primary responder was found in one of the orders too. -/
theorem flowPrimary_run (flow_id : UInt8) (events : List HopEvent) :
    Tallies ((run flaps ttl orders events).flow flow_id).responder_counts id
        (events.filterMap (HopEvent.flowResponder? flow_id)) ∧
      ∃ i, (run flaps ttl orders events).flowPrimary flow_id =
        (pick (orders i).responder_counts id ((run flaps ttl orders events).flow flow_id).responder_counts).map
          (·.1) := by
  simp only [flowPrimary_eq]
  induction events using List.reverseRecOn with
  | nil =>
    refine ⟨tallies_empty _, 0, ?_⟩
    have hnone := pick_empty (orders 0).responder_counts id
    exact (congrArg (Option.map fun e => e.1) hnone).symm
  | append_singleton events e ih =>
    obtain ⟨htallies, i, hprimary⟩ := ih
    rw [run_concat, List.filterMap_append]
    cases he : e.flowResponder? flow_id with
    | none =>
      obtain ⟨hcounts, hsame⟩ :=
        recordIn_of_not_flowResponse (orders events.length) (run flaps ttl orders events) flaps he
      rw [List.filterMap_cons_none he, hcounts, hsame, List.filterMap_nil, List.append_nil]
      exact ⟨htallies, i, hprimary⟩
    | some ip =>
      cases e with
      | flowResponse id' responder =>
        have hresponder := he
        rw [HopEvent.flowResponder?] at hresponder
        split_ifs at hresponder with hid
        obtain rfl := Option.some.inj hresponder
        rw [List.filterMap_cons_some he, recordIn, flow_recordFlowResponseIn, if_pos hid.symm, List.filterMap_nil, hid]
        exact ⟨htallies.upsert responder rfl fun n => rfl, events.length, rfl⟩
      | _ => cases he

end

/-- **Primary responders:** that of the hop, and that of every flow, is the same in all orders exactly when no two
responders share the largest number of the responses that it is counted from. -/
theorem primary_deterministic_iff (flaps : Bool) (ttl : UInt8) (events : List HopEvent) :
    ((∀ orders orders', (run flaps ttl orders events).primary = (run flaps ttl orders' events).primary) ↔
      Uncontested (events.filterMap HopEvent.responder?)) ∧
    ∀ flow_id,
      (∀ orders orders', (run flaps ttl orders events).flowPrimary flow_id =
        (run flaps ttl orders' events).flowPrimary flow_id) ↔
      Uncontested (events.filterMap (HopEvent.flowResponder? flow_id)) := by
  -- Where the list is contested, runs that use one order throughout tell the leaders apart.
  refine ⟨forall_eq_iff_uncontested (f := ResponderStats.received) (fun orders => ?_) fun order => ?_,
    fun flow_id => forall_eq_iff_uncontested (f := id) (fun orders => ?_) fun order => ?_⟩
  · obtain ⟨htallies, i, hprimary⟩ := primary_run flaps ttl orders events
    exact ⟨_, _, htallies, hprimary⟩
  · obtain ⟨htallies, i, hprimary⟩ := primary_run flaps ttl (fun _ => ⟨order, .entries⟩) events
    exact ⟨_, _, htallies, hprimary⟩
  · obtain ⟨htallies, i, hprimary⟩ := flowPrimary_run flaps ttl orders flow_id events
    exact ⟨_, _, htallies, hprimary⟩
  · obtain ⟨htallies, i, hprimary⟩ := flowPrimary_run flaps ttl (fun _ => ⟨.entries, order⟩) flow_id events
    exact ⟨_, _, htallies, hprimary⟩

/-- One response from each of two responders. -/
def levelEvents : List HopEvent :=
  [.response (.V4 ⟨10, 0, 0, 1⟩) 1000000 none none, .flowResponse 0 (.V4 ⟨10, 0, 0, 1⟩),
    .response (.V4 ⟨10, 0, 0, 2⟩) 1000000 none none, .flowResponse 0 (.V4 ⟨10, 0, 0, 2⟩)]

/-- The order decides between two responders that are level. -/
theorem primary_depends_on_order :
    (run false 1 (fun _ => ⟨.entries, .entries⟩) levelEvents).primary ≠
        (run false 1 (fun _ => ⟨.reverse, .reverse⟩) levelEvents).primary ∧
      (run false 1 (fun _ => ⟨.entries, .entries⟩) levelEvents).flowPrimary 0 ≠
        (run false 1 (fun _ => ⟨.reverse, .reverse⟩) levelEvents).flowPrimary 0 := by
  decide

end Hop

end Ttl
