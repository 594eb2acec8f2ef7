import Mathlib.Data.List.Sort
import Ttl.Lib.Lists
import Ttl.Lib.Streaming
import Ttl.State.Primary

/-!
# Balanced paths

`ecmp_kind`, `path_count` and `ecmp_paths` of a hop (`src/state/session.rs`), which tell a hop whose routers each serve
some of the flows from one whose routers take turns. `Counted` is what a hop knows of its responses, in whatever order
the maps were searched, and all results follow from it: how many paths are counted, what becomes of flows that each have
one responder (`ecmpKind_steady`) and of flows that are spread over several (`ecmpKind_spread`).
-/

namespace Ttl

open Plurality

/-- `EcmpKind`. -/
inductive EcmpKind where
  | None
  | PerFlow
  | PerPacket
deriving DecidableEq

namespace Hop

/-- `MIN_RESPONSES_FOR_PER_PACKET`. -/
def minResponsesForPerPacket : ℕ := 8

/-- `MIN_FLOW_RESPONSES_FOR_CLASSIFICATION`. -/
def minFlowResponsesForClassification : ℕ := 4

/-- `PER_PACKET_PRIMARY_RATIO_THRESHOLD`. -/
def perPacketPrimaryRatioThreshold : ℚ := 7 / 10

/-- The primary responders of the flows that have one, in the order of the map. -/
def flowPrimaries (h : Hop) : List IpAddr := h.flow_paths.entries.filterMap fun e => e.2.primary_responder

/-- `unique_flow_primary_count`. -/
def uniqueFlowPrimaryCount (h : Hop) : ℕ := h.flowPrimaries.dedup.length

/-- `flow_primary_ratio`. -/
def flowPrimaryRatio (flow : FlowPathStats) : Option ℚ :=
  if flow.received = 0 then none
  else
    let primary := ((flow.responder_counts.entries.map fun e => e.2).max?).getD 0
    some (primary / flow.received)

/-- `hop_primary_ratio`. -/
def hopPrimaryRatio (h : Hop) : Option ℚ :=
  if h.received = 0 then none
  else (h.primary.bind h.responders.lookup).map fun s => s.received / h.received

/-- The flows with enough responses to judge by. -/
def ecmpFlows (h : Hop) : List (Sigma fun _ : UInt8 => FlowPathStats) :=
  h.flow_paths.entries.filter fun e => minFlowResponsesForClassification ≤ e.2.received

/-- The shares of their primary responders. -/
def sampledRatios (h : Hop) : List ℚ := h.ecmpFlows.filterMap fun e => flowPrimaryRatio e.2

/-- `ecmp_kind`, from the heuristic for an effective single flow on. -/
def singleFlowKind (h : Hop) : EcmpKind :=
  if 1 < h.responders.entries.length ∧ minResponsesForPerPacket ≤ h.received ∧
      h.hopPrimaryRatio.any (fun ratio => ratio < perPacketPrimaryRatioThreshold) then .PerPacket
  else if 1 < h.uniqueFlowPrimaryCount then .PerFlow
  else .None

/-- `ecmp_kind`. The ratios and their average are exact here, where the code has `f64`. -/
def ecmpKind (h : Hop) : EcmpKind :=
  if 2 ≤ h.ecmpFlows.length then
    let avg_primary_ratio := h.sampledRatios.sum / h.ecmpFlows.length
    if 1 < h.responders.entries.length ∧ avg_primary_ratio < perPacketPrimaryRatioThreshold then .PerPacket
    else if 1 < h.uniqueFlowPrimaryCount then .PerFlow
    else h.singleFlowKind
  else h.singleFlowKind

/-- `has_ecmp`. -/
def hasEcmp (h : Hop) : Bool := h.ecmpKind ≠ .None

/-- `ecmp_paths`: the flows that have a primary responder, by their numbers. -/
def ecmpPaths (h : Hop) : List (UInt8 × IpAddr) :=
  List.insertionSort (fun a b => a.1 ≤ b.1)
    (h.flow_paths.entries.filterMap fun e => e.2.primary_responder.map fun ip => (e.1, ip))

/-- `path_count`. -/
def pathCount (h : Hop) : ℕ :=
  let responded := if h.primary.isSome then 1 else 0
  match h.ecmpKind with
  | .PerPacket => max (max h.responders.entries.length h.uniqueFlowPrimaryCount) responded
  | .PerFlow | .None => max h.uniqueFlowPrimaryCount responded

/-! ## What a hop knows of its responses -/

/-- The hop has the responses `R`, and those on each flow are `F`. -/
structure Counted (h : Hop) (R : List IpAddr) (F : UInt8 → List IpAddr) : Prop where
  received : h.received = R.length
  responders : Tallies h.responders ResponderStats.received R
  primary : ∃ order, h.primary = (pick order ResponderStats.received h.responders).map (·.1)
  flow_received : ∀ flow_id, (h.flow flow_id).received = (F flow_id).length
  flow_counts : ∀ flow_id, Tallies (h.flow flow_id).responder_counts id (F flow_id)
  flow_primary : ∀ flow_id, ∃ order,
    h.flowPrimary flow_id = (pick order id (h.flow flow_id).responder_counts).map (·.1)

/-- The responses among events. -/
def responses (events : List HopEvent) : List IpAddr := events.filterMap HopEvent.responder?

/-- The responses on a flow among events. -/
def flowResponses (events : List HopEvent) (flow_id : UInt8) : List IpAddr :=
  events.filterMap (HopEvent.flowResponder? flow_id)

section

variable (flaps : Bool) (ttl : UInt8) (orders : ℕ → HopOrder)

/-- An event adds the responses that it is to the hop's. -/
theorem received_recordIn (order : HopOrder) (h : Hop) (e : HopEvent) :
    (h.recordIn flaps order e).received = h.received + (responses [e]).length := by
  cases he : e.responder? with
  | none =>
    have hsame := recordIn_of_not_response flaps order h he
    rw [hsame.received, responses, List.filterMap_cons_none he]
    rfl
  | some ip =>
    rw [responses, List.filterMap_cons_some he]
    cases e with
    | response ip' rtt mpls_labels interface_info =>
      cases flaps with
      | false => rfl
      | true =>
        obtain ⟨tracked, changes, heq⟩ := recordResponseDetectingFlaps_frame order h ip' rtt mpls_labels interface_info
        rw [recordIn, if_pos rfl, heq]
        rfl
    | _ => cases he

/-- An event adds the responses that it is to a flow's. -/
theorem flow_received_recordIn (order : HopOrder) (h : Hop) (e : HopEvent) (flow_id : UInt8) :
    ((h.recordIn flaps order e).flow flow_id).received =
      (h.flow flow_id).received + (flowResponses [e] flow_id).length := by
  have hupsert (id : UInt8) (g : FlowPathStats → FlowPathStats) (hg : ∀ s, (g s).received = s.received) :
      (((KeyMap.upsert h.flow_paths id .default g).lookup flow_id).getD .default).received =
        (h.flow flow_id).received := by
    rw [KeyMap.lookup_upsert]
    split_ifs with hid
    · rw [hid]
      exact hg _
    · rfl
  cases e with
  | response ip rtt mpls_labels interface_info =>
    unfold flow
    rw [(recordIn_response order h flaps ip rtt mpls_labels interface_info).2.2]
    rfl
  | flowResponse id responder =>
    rw [recordIn, flow_recordFlowResponseIn, flowResponses, List.filterMap_cons, HopEvent.flowResponder?]
    split_ifs with hid hid' hid'
    · rw [hid]
      rfl
    · exact absurd hid.symm hid'
    · exact absurd hid'.symm hid
    · rfl
  | flowSent id => exact hupsert id _ fun _ => rfl
  | flowTimeout id => exact hupsert id _ fun _ => rfl
  | natCheck original returned =>
    obtain ⟨nat_info, hnat⟩ := h.recordNatCheck_eq original returned
    rw [recordIn, hnat]
    rfl
  | _ => rfl

/-- A hop knows its responses after every run. -/
theorem counted_run (events : List HopEvent) :
    Counted (run flaps ttl orders events) (responses events) (flowResponses events) := by
  obtain ⟨hresponders, i, hprimary⟩ := primary_run flaps ttl orders events
  refine ⟨?_, hresponders, ⟨_, hprimary⟩, fun flow_id => ?_, fun flow_id => ?_, fun flow_id => ?_⟩
  · clear hresponders hprimary
    induction events using List.reverseRecOn with
    | nil => rfl
    | append_singleton events e ih =>
      rw [run_concat, received_recordIn, ih, responses, responses, responses, List.filterMap_append, List.length_append]
  · clear hresponders hprimary
    induction events using List.reverseRecOn with
    | nil => rfl
    | append_singleton events e ih =>
      rw [run_concat, flow_received_recordIn, ih, flowResponses, flowResponses, flowResponses, List.filterMap_append,
        List.length_append]
  · exact (flowPrimary_run flaps ttl orders flow_id events).1
  · obtain ⟨-, j, hflow⟩ := flowPrimary_run flaps ttl orders flow_id events
    exact ⟨_, hflow⟩

end

/-! ## What the counts say -/

/-- No responder has the share of the responses that a primary one is to have. -/
def Spread (l : List IpAddr) : Prop := ∀ k, 10 * l.count k < 7 * l.length

instance (l : List IpAddr) : Decidable (Spread l) :=
  decidable_of_iff (l ≠ [] ∧ ∀ k ∈ l, 10 * l.count k < 7 * l.length) (by
    constructor
    · rintro ⟨hne, hall⟩ k
      by_cases hk : k ∈ l
      · exact hall k hk
      · rw [List.count_eq_zero.mpr hk, Nat.mul_zero]
        exact Nat.mul_pos (by decide) (List.length_pos_iff.mpr hne)
    · intro hspread
      refine ⟨?_, fun k _ => hspread k⟩
      rintro rfl
      exact absurd (hspread (.V4 ⟨0, 0, 0, 0⟩)) (lt_irrefl 0))

/-- Two flows have enough responses to judge by. -/
def TwoSampled (F : UInt8 → List IpAddr) : Prop :=
  ∃ f g, f ≠ g ∧ minFlowResponsesForClassification ≤ (F f).length ∧ minFlowResponsesForClassification ≤ (F g).length

section

variable {h : Hop} {R : List IpAddr} {F : UInt8 → List IpAddr} {l : List IpAddr} {k : IpAddr} {f : UInt8}

/-- A leader's share is below the threshold when no one has 70%. -/
theorem share_lt_iff (hk : IsLeader l k) : (l.count k : ℚ) / l.length < perPacketPrimaryRatioThreshold ↔ Spread l := by
  have hpos : (0 : ℚ) < l.length := Nat.cast_pos.mpr (List.length_pos_of_mem hk.1)
  have hcast : (l.count k : ℚ) / l.length < 7 / 10 ↔ 10 * l.count k < 7 * l.length := by
    rw [div_lt_div_iff₀ hpos (by norm_num), mul_comm]
    exact_mod_cast Iff.rfl
  rw [perPacketPrimaryRatioThreshold, hcast]
  constructor
  · exact fun hlt k' => (Nat.mul_le_mul_left 10 (hk.2 k')).trans_lt hlt
  · exact fun hspread => hspread k

/-- Responses that are spread come from several responders. -/
theorem Spread.one_lt (hspread : Spread l) : 1 < l.dedup.length := by
  have hne : l ≠ [] := by
    rintro rfl
    exact absurd (hspread (.V4 ⟨0, 0, 0, 0⟩)) (lt_irrefl 0)
  obtain ⟨a, ha⟩ := List.exists_mem_of_ne_nil l hne
  rw [Lists.one_lt_length_iff l.nodup_dedup]
  by_contra hsame
  have hall : ∀ b ∈ l, a = b := by
    intro b hb
    by_contra hab
    exact hsame ⟨a, List.mem_dedup.mpr ha, b, List.mem_dedup.mpr hb, hab⟩
  have hcount : l.count a = l.length := List.count_eq_length.mpr hall
  have hlt := hspread a
  rw [hcount] at hlt
  have hpos := List.length_pos_of_mem ha
  omega

/-- There is a primary responder once something has answered. -/
theorem Counted.primary_isSome (hc : Counted h R F) : h.primary.isSome = true ↔ R ≠ [] := by
  obtain ⟨order, hprimary⟩ := hc.primary
  rw [hprimary, Option.isSome_map, Option.isSome_iff_ne_none, ne_eq, hc.responders.pick_eq_none_iff]

/-- The primary responder's share of the responses. -/
theorem Counted.hopPrimaryRatio (hc : Counted h R F) :
    h.hopPrimaryRatio.any (fun ratio => ratio < perPacketPrimaryRatioThreshold) = true ↔ Spread R := by
  obtain ⟨order, hprimary⟩ := hc.primary
  unfold Hop.hopPrimaryRatio
  rw [hc.received, hprimary]
  cases hpick : pick order ResponderStats.received h.responders with
  | none =>
    have hnil : R = [] := hc.responders.pick_eq_none_iff.mp hpick
    subst hnil
    exact ⟨nofun, fun hspread => absurd (hspread (.V4 ⟨0, 0, 0, 0⟩)) (lt_irrefl 0)⟩
  | some e =>
    obtain ⟨hleader, hcount⟩ := hc.responders.isLeader hpick
    have hlookup : (h.responders.lookup e.1).map (·.received) = some (R.count e.1) := by
      rw [hc.responders e.1, if_pos hleader.1]
    obtain ⟨stats, hstats, hreceived⟩ := Option.map_eq_some_iff.mp hlookup
    rw [if_neg (List.length_pos_of_mem hleader.1).ne', Option.map_some, Option.bind_some, hstats, Option.map_some,
      Option.any_some, decide_eq_true_eq, hreceived]
    exact share_lt_iff hleader

/-- A flow without responses has no primary responder. -/
theorem Counted.flowPrimary_eq_none (hc : Counted h R F) : h.flowPrimary f = none ↔ F f = [] := by
  obtain ⟨order, hflow⟩ := hc.flow_primary f
  rw [hflow, Option.map_eq_none_iff, (hc.flow_counts f).pick_eq_none_iff]

/-- The primary responder of a flow leads its responses. -/
theorem Counted.isLeader (hc : Counted h R F) (hk : h.flowPrimary f = some k) : IsLeader (F f) k := by
  obtain ⟨order, hflow⟩ := hc.flow_primary f
  rw [hflow] at hk
  obtain ⟨e, hpick, rfl⟩ := Option.map_eq_some_iff.mp hk
  exact ((hc.flow_counts f).isLeader hpick).1

/-- A flow with responses has a primary responder. -/
theorem Counted.exists_flowPrimary (hc : Counted h R F) (hF : F f ≠ []) : ∃ ip, h.flowPrimary f = some ip :=
  Option.ne_none_iff_exists'.mp fun hnone => hF (hc.flowPrimary_eq_none.mp hnone)

/-- A flow's primary responder has its share of the responses on the flow. -/
theorem Counted.flowPrimaryRatio (hc : Counted h R F) (hF : F f ≠ []) :
    ∃ k, IsLeader (F f) k ∧ flowPrimaryRatio (h.flow f) = some (((F f).count k : ℚ) / (F f).length) := by
  obtain ⟨k, hk⟩ := (hc.flow_counts f).exists_leader hF
  have hmax : ((h.flow f).responder_counts.entries.map fun e => e.2).max? = some ((F f).count k) :=
    (hc.flow_counts f).max?_eq hk
  refine ⟨k, hk, ?_⟩
  rw [Hop.flowPrimaryRatio, hc.flow_received, if_neg (List.length_pos_iff.mpr hF).ne', hmax]
  rfl

/-- The entries are the flows. -/
theorem mem_flow_paths {e : Sigma fun _ : UInt8 => FlowPathStats} (he : e ∈ h.flow_paths.entries) :
    e.2 = h.flow e.1 ∧ e.2.primary_responder = h.flowPrimary e.1 := by
  have hlookup : h.flow_paths.lookup e.1 = some e.2 := AList.mem_lookup_iff.mpr he
  rw [flow, flowPrimary, hlookup]
  exact ⟨rfl, rfl⟩

/-- A flow with a primary responder is in the map. -/
theorem exists_flow_paths (hk : h.flowPrimary f = some k) :
    ∃ e ∈ h.flow_paths.entries, e.1 = f ∧ e.2.primary_responder = some k := by
  obtain ⟨stats, hlookup, hprimary⟩ := Option.bind_eq_some_iff.mp hk
  exact ⟨⟨f, stats⟩, AList.mem_lookup_iff.mp hlookup, rfl, hprimary⟩

/-- The primaries are those of the flows. -/
theorem mem_flowPrimaries {ip : IpAddr} : ip ∈ h.flowPrimaries ↔ ∃ f, h.flowPrimary f = some ip := by
  rw [flowPrimaries, List.mem_filterMap]
  constructor
  · rintro ⟨e, he, hprimary⟩
    rw [(mem_flow_paths he).2] at hprimary
    exact ⟨e.1, hprimary⟩
  · rintro ⟨f, hf⟩
    obtain ⟨e, he, -, hprimary⟩ := exists_flow_paths hf
    exact ⟨e, he, hprimary⟩

/-- Two primaries are counted when two flows have different ones. -/
theorem one_lt_uniqueFlowPrimaryCount :
    1 < h.uniqueFlowPrimaryCount ↔
      ∃ f g ip ip', h.flowPrimary f = some ip ∧ h.flowPrimary g = some ip' ∧ ip ≠ ip' := by
  rw [uniqueFlowPrimaryCount, Lists.one_lt_length_iff (List.nodup_dedup _)]
  simp only [List.mem_dedup, mem_flowPrimaries]
  constructor
  · rintro ⟨ip, ⟨f, hf⟩, ip', ⟨g, hg⟩, hne⟩
    exact ⟨f, g, ip, ip', hf, hg, hne⟩
  · rintro ⟨f, g, ip, ip', hf, hg, hne⟩
    exact ⟨ip, ⟨f, hf⟩, ip', ⟨g, hg⟩, hne⟩

/-- A flow that is classified has four responses. -/
theorem Counted.mem_ecmpFlows (hc : Counted h R F) {e : Sigma fun _ : UInt8 => FlowPathStats}
    (he : e ∈ h.ecmpFlows) : e.2 = h.flow e.1 ∧ minFlowResponsesForClassification ≤ (F e.1).length := by
  obtain ⟨hmem, hreceived⟩ := List.mem_filter.mp he
  have hflow := (mem_flow_paths hmem).1
  rw [decide_eq_true_eq, hflow, hc.flow_received] at hreceived
  exact ⟨hflow, hreceived⟩

/-- Two flows are classified when two have four responses. -/
theorem Counted.two_le_ecmpFlows (hc : Counted h R F) : 2 ≤ h.ecmpFlows.length ↔ TwoSampled F := by
  have hnodup : h.ecmpFlows.Nodup := (List.NodupKeys.nodup h.flow_paths.nodupKeys).filter _
  have hsampled (f : UInt8) (hf : minFlowResponsesForClassification ≤ (F f).length) :
      ∃ e ∈ h.ecmpFlows, e.1 = f := by
    have hF : F f ≠ [] := by
      intro hnil
      rw [hnil] at hf
      exact absurd hf (by decide)
    obtain ⟨ip, hip⟩ := hc.exists_flowPrimary hF
    obtain ⟨e, he, rfl, -⟩ := exists_flow_paths hip
    refine ⟨e, List.mem_filter.mpr ⟨he, ?_⟩, rfl⟩
    rw [decide_eq_true_eq, (mem_flow_paths he).1, hc.flow_received]
    exact hf
  rw [Nat.succ_le_iff, Lists.one_lt_length_iff hnodup]
  constructor
  · rintro ⟨e, he, e', he', hne⟩
    obtain ⟨heq, hlen⟩ := hc.mem_ecmpFlows he
    obtain ⟨heq', hlen'⟩ := hc.mem_ecmpFlows he'
    refine ⟨e.1, e'.1, fun hkey => hne ?_, hlen, hlen'⟩
    exact Sigma.ext hkey (heq_of_eq (by rw [heq, heq', hkey]))
  · rintro ⟨f, g, hne, hf, hg⟩
    obtain ⟨e, he, rfl⟩ := hsampled f hf
    obtain ⟨e', he', rfl⟩ := hsampled g hg
    exact ⟨e, he, e', he', fun heq => hne (by rw [heq])⟩

/-- A ratio is a leader's share of a flow with four responses. -/
theorem Counted.mem_sampledRatios (hc : Counted h R F) {e : Sigma fun _ : UInt8 => FlowPathStats}
    (he : e ∈ h.ecmpFlows) : ∃ k, IsLeader (F e.1) k ∧ minFlowResponsesForClassification ≤ (F e.1).length ∧
      Hop.flowPrimaryRatio e.2 = some (((F e.1).count k : ℚ) / (F e.1).length) := by
  obtain ⟨heq, hlen⟩ := hc.mem_ecmpFlows he
  have hF : F e.1 ≠ [] := by
    intro hnil
    rw [hnil] at hlen
    exact absurd hlen (by decide)
  obtain ⟨k, hk, hshare⟩ := hc.flowPrimaryRatio hF
  exact ⟨k, hk, hlen, heq ▸ hshare⟩

/-- Every flow that is classified has a ratio. -/
theorem Counted.length_sampledRatios (hc : Counted h R F) : h.sampledRatios.length = h.ecmpFlows.length := by
  rw [sampledRatios, List.length_filterMap_eq_countP, List.countP_eq_length]
  intro e he
  obtain ⟨k, -, -, hshare⟩ := hc.mem_sampledRatios he
  rw [hshare]
  rfl

/-- The average share is below the threshold when all shares are, and is not when none is. -/
theorem Counted.averageRatio (hc : Counted h R F) (htwo : TwoSampled F) :
    ((∀ f, minFlowResponsesForClassification ≤ (F f).length → Spread (F f)) →
        h.sampledRatios.sum / h.ecmpFlows.length < perPacketPrimaryRatioThreshold) ∧
      ((∀ f, minFlowResponsesForClassification ≤ (F f).length → ¬ Spread (F f)) →
        ¬ h.sampledRatios.sum / h.ecmpFlows.length < perPacketPrimaryRatioThreshold) := by
  have hlength := hc.length_sampledRatios
  have hsampled := hc.two_le_ecmpFlows.mpr htwo
  have hmean : h.sampledRatios.sum / h.ecmpFlows.length = Streaming.mean h.sampledRatios := by
    rw [Streaming.mean, hlength]
  have hne : h.sampledRatios ≠ [] := by
    refine List.length_pos_iff.mp ?_
    rw [hlength]
    exact Nat.zero_lt_of_lt hsampled
  have hratio : ∀ ratio ∈ h.sampledRatios, ∃ f k, IsLeader (F f) k ∧
      minFlowResponsesForClassification ≤ (F f).length ∧ ((F f).count k : ℚ) / (F f).length = ratio := by
    intro ratio hmem
    obtain ⟨e, he, hshare⟩ := List.mem_filterMap.mp hmem
    obtain ⟨k, hk, hlen, heq⟩ := hc.mem_sampledRatios he
    rw [heq] at hshare
    exact ⟨e.1, k, hk, hlen, Option.some.inj hshare⟩
  rw [hmean]
  constructor
  · intro hspread
    refine Streaming.mean_lt hne fun ratio hmem => ?_
    obtain ⟨f, k, hk, hlen, rfl⟩ := hratio ratio hmem
    exact (share_lt_iff hk).mpr (hspread f hlen)
  · intro hsettled
    refine not_lt.mpr (Streaming.le_mean hne fun ratio hmem => ?_)
    obtain ⟨f, k, hk, hlen, rfl⟩ := hratio ratio hmem
    exact not_lt.mp fun hlt => hsettled f hlen ((share_lt_iff hk).mp hlt)

/-! ## The kinds -/

/-- The counts behind each kind. -/
theorem ecmpKind_counts (h : Hop) :
    match h.ecmpKind with
    | .PerPacket => 1 < h.responders.entries.length
    | .PerFlow => 1 < h.uniqueFlowPrimaryCount
    | .None => h.uniqueFlowPrimaryCount ≤ 1 := by
  have hsingle : match h.singleFlowKind with
      | .PerPacket => 1 < h.responders.entries.length
      | .PerFlow => 1 < h.uniqueFlowPrimaryCount
      | .None => h.uniqueFlowPrimaryCount ≤ 1 := by
    unfold singleFlowKind
    split_ifs with hpacket hflow
    · exact hpacket.1
    · exact hflow
    · exact not_lt.mp hflow
  unfold ecmpKind
  dsimp only
  split_ifs with _ hpacket hflow
  · exact hpacket.1
  · exact hflow
  · exact hsingle
  · exact hsingle

/-- The heuristic for an effective single flow, in terms of the responses. -/
theorem Counted.singleFlowKind (hc : Counted h R F) :
    h.singleFlowKind =
      if minResponsesForPerPacket ≤ R.length ∧ Spread R then .PerPacket
      else if 1 < h.uniqueFlowPrimaryCount then .PerFlow else .None := by
  have hpacket : (1 < h.responders.entries.length ∧ minResponsesForPerPacket ≤ h.received ∧
      h.hopPrimaryRatio.any (fun ratio => ratio < perPacketPrimaryRatioThreshold)) ↔
      minResponsesForPerPacket ≤ R.length ∧ Spread R := by
    rw [hc.received, hc.hopPrimaryRatio, hc.responders.length_entries]
    exact and_iff_right_of_imp fun hspread => hspread.2.one_lt
  unfold Hop.singleFlowKind
  simp only [hpacket]

/-- **Balancing is reported exactly when two paths are counted**, and none is counted only where nothing has answered. -/
theorem Counted.pathCount (hc : Counted h R F) :
    (h.hasEcmp = true ↔ 2 ≤ h.pathCount) ∧ (h.pathCount = 0 ↔ R = [] ∧ ∀ f, F f = []) := by
  have hcounts := h.ecmpKind_counts
  have hunique : h.uniqueFlowPrimaryCount = 0 ↔ ∀ f, F f = [] := by
    rw [uniqueFlowPrimaryCount, List.length_eq_zero_iff, List.dedup_eq_nil]
    constructor
    · intro hnil f
      by_contra hF
      obtain ⟨ip, hip⟩ := hc.exists_flowPrimary hF
      have hmem : ip ∈ h.flowPrimaries := mem_flowPrimaries.mpr ⟨f, hip⟩
      rw [hnil] at hmem
      cases hmem
    · intro hall
      refine List.eq_nil_iff_forall_not_mem.mpr fun ip hip => ?_
      obtain ⟨f, hf⟩ := mem_flowPrimaries.mp hip
      have hleader := (hc.isLeader hf).1
      rw [hall f] at hleader
      cases hleader
  have hprimary : (if h.primary.isSome then 1 else 0) = 0 ↔ R = [] := by
    rw [← not_iff_not, ← ne_eq R, ← hc.primary_isSome]
    split_ifs with hsome <;> simp [hsome]
  have hresponders : h.responders.entries.length = 0 ↔ R = [] := by
    rw [hc.responders.length_entries, List.length_eq_zero_iff, List.dedup_eq_nil]
  have hle : (if h.primary.isSome then 1 else 0) ≤ 1 := by
    split_ifs
    · exact le_rfl
    · exact Nat.zero_le 1
  unfold hasEcmp Hop.pathCount
  dsimp only
  rw [decide_eq_true_eq, ← hprimary, ← hunique]
  generalize (if h.primary.isSome then 1 else 0) = responded at hprimary hle ⊢
  have hnone : h.responders.entries.length = 0 ↔ responded = 0 := hresponders.trans hprimary.symm
  cases hkind : h.ecmpKind <;> rw [hkind] at hcounts <;> dsimp only at hcounts ⊢
  case None =>
    refine ⟨⟨fun hne => absurd rfl hne, fun htwo => ?_⟩, by omega⟩
    omega
  case PerFlow => exact ⟨⟨fun _ => by omega, fun _ => EcmpKind.noConfusion⟩, by omega⟩
  case PerPacket => exact ⟨⟨fun _ => by omega, fun _ => EcmpKind.noConfusion⟩, by omega⟩

/-- The paths are listed by flow, one for each flow that has been answered, with a responder that no other one
outnumbers. -/
theorem Counted.ecmpPaths (hc : Counted h R F) :
    (h.ecmpPaths.map Prod.fst).Pairwise (· < ·) ∧ (∀ f, f ∈ h.ecmpPaths.map Prod.fst ↔ F f ≠ []) ∧
      ∀ path ∈ h.ecmpPaths, IsLeader (F path.1) path.2 := by
  have hperm := List.perm_insertionSort (fun a b : UInt8 × IpAddr => a.1 ≤ b.1)
    (h.flow_paths.entries.filterMap fun e => e.2.primary_responder.map fun ip => (e.1, ip))
  have hmem (path : UInt8 × IpAddr) : path ∈ h.ecmpPaths ↔ h.flowPrimary path.1 = some path.2 := by
    rw [Hop.ecmpPaths, hperm.mem_iff, List.mem_filterMap]
    constructor
    · rintro ⟨e, he, hpath⟩
      obtain ⟨ip, hip, rfl⟩ := Option.map_eq_some_iff.mp hpath
      exact (mem_flow_paths he).2.symm.trans hip
    · intro hprimary
      obtain ⟨e, he, hkey, hip⟩ := exists_flow_paths hprimary
      exact ⟨e, he, Option.map_eq_some_iff.mpr ⟨path.2, hip, by rw [hkey]⟩⟩
  have hsorted : h.ecmpPaths.Pairwise fun a b => a.1 ≤ b.1 := by
    have : Std.Total fun a b : UInt8 × IpAddr => a.1 ≤ b.1 := ⟨fun a b => UInt8.le_total a.1 b.1⟩
    have : IsTrans (UInt8 × IpAddr) fun a b => a.1 ≤ b.1 := ⟨fun _ _ _ => UInt8.le_trans⟩
    exact List.pairwise_insertionSort _ _
  have hnodup : (h.ecmpPaths.map Prod.fst).Nodup := by
    rw [Hop.ecmpPaths, (hperm.map Prod.fst).nodup_iff]
    refine (Lists.map_filterMap_sublist (k := Sigma.fst) ?_ _).nodup h.flow_paths.nodupKeys
    intro e path hpath
    obtain ⟨ip, -, rfl⟩ := Option.map_eq_some_iff.mp hpath
    rfl
  refine ⟨?_, fun f => ?_, fun path hpath => hc.isLeader ((hmem path).mp hpath)⟩
  · have hle : (h.ecmpPaths.map Prod.fst).Pairwise (· ≤ ·) := List.pairwise_map.mpr hsorted
    exact hle.imp₂ (fun _ _ hab hne => UInt8.lt_of_le_of_ne hab hne) hnodup
  · rw [List.mem_map]
    constructor
    · rintro ⟨path, hpath, rfl⟩ hnil
      have hleader := (hc.isLeader ((hmem path).mp hpath)).1
      rw [hnil] at hleader
      cases hleader
    · intro hF
      obtain ⟨ip, hip⟩ := hc.exists_flowPrimary hF
      exact ⟨(f, ip), (hmem _).mpr hip, rfl⟩

/-- Every response of the hop is one on a flow. The code records the two together (`paired_recordedResponses`). -/
def Paired (R : List IpAddr) (F : UInt8 → List IpAddr) : Prop := ∀ ip, ip ∈ R ↔ ∃ f, ip ∈ F f

/-- A primary responder of a flow is one of the hop. -/
theorem Counted.uniqueFlowPrimaryCount_le (hc : Counted h R F) (hpaired : Paired R F) :
    h.uniqueFlowPrimaryCount ≤ R.dedup.length := by
  have hsub : h.flowPrimaries.dedup ⊆ R.dedup := by
    intro ip hip
    obtain ⟨f, hf⟩ := mem_flowPrimaries.mp (List.mem_dedup.mp hip)
    exact List.mem_dedup.mpr ((hpaired ip).mpr ⟨f, (hc.isLeader hf).1⟩)
  exact ((List.nodup_dedup _).subperm hsub).length_le

/-- What has answered at all is counted. -/
theorem Counted.responded_le (hc : Counted h R F) : (if h.primary.isSome then 1 else 0) ≤ R.dedup.length := by
  split_ifs with hsome
  · have hne := hc.primary_isSome.mp hsome
    exact List.length_pos_iff.mpr fun hnil => hne ((List.dedup_eq_nil R).mp hnil)
  · exact Nat.zero_le _

/-- **Flows that each have one responder:** their paths are counted exactly, and they are not taken for a balancing of
packets once two of them have four responses. Before, they are when the hop has eight and no responder has 70% of
them. -/
theorem Counted.ecmpKind_steady (hc : Counted h R F) (hpaired : Paired R F)
    (hsteady : ∀ f a b, a ∈ F f → b ∈ F f → a = b) :
    h.pathCount = R.dedup.length ∧
      (h.ecmpKind = .PerPacket ↔ ¬ TwoSampled F ∧ minResponsesForPerPacket ≤ R.length ∧ Spread R) ∧
      (h.ecmpKind = .None ↔ R.dedup.length ≤ 1) := by
  -- The primary responders of the flows are all that have answered.
  have hunique : h.uniqueFlowPrimaryCount = R.dedup.length := by
    refine Lists.length_eq_of_nodup (List.nodup_dedup _) (List.nodup_dedup _) fun ip => ?_
    rw [List.mem_dedup, List.mem_dedup, mem_flowPrimaries, hpaired ip]
    constructor
    · exact fun ⟨f, hf⟩ => ⟨f, (hc.isLeader hf).1⟩
    · rintro ⟨f, hf⟩
      obtain ⟨ip', hip'⟩ := hc.exists_flowPrimary (List.ne_nil_of_mem hf)
      rw [← hsteady f ip' ip (hc.isLeader hip').1 hf]
      exact ⟨f, hip'⟩
  have hresponders : h.responders.entries.length = R.dedup.length := hc.responders.length_entries
  have hsettled : ∀ f, minFlowResponsesForClassification ≤ (F f).length → ¬ Spread (F f) := by
    intro f _ hspread
    obtain ⟨a, ha, b, hb, hne⟩ := (Lists.one_lt_length_iff (List.nodup_dedup _)).mp hspread.one_lt
    exact hne (hsteady f a b (List.mem_dedup.mp ha) (List.mem_dedup.mp hb))
  have hsingle := hc.singleFlowKind
  rw [hunique] at hsingle
  have hkind : h.ecmpKind =
      if 2 ≤ h.ecmpFlows.length then (if 1 < R.dedup.length then .PerFlow else .None)
      else if minResponsesForPerPacket ≤ R.length ∧ Spread R then .PerPacket
      else if 1 < R.dedup.length then .PerFlow else .None := by
    unfold Hop.ecmpKind
    dsimp only
    rw [hresponders, hunique, hsingle]
    by_cases htwo : 2 ≤ h.ecmpFlows.length
    · have haverage := (hc.averageRatio (hc.two_le_ecmpFlows.mp htwo)).2 hsettled
      have hspread : ¬ 1 < R.dedup.length → ¬ (minResponsesForPerPacket ≤ R.length ∧ Spread R) :=
        fun hle hspread => hle hspread.2.one_lt
      rw [if_pos htwo, if_pos htwo, if_neg fun hboth => haverage hboth.2]
      split_ifs with hone hpacket
      · rfl
      · exact absurd hpacket (hspread hone)
      · rfl
    · rw [if_neg htwo, if_neg htwo]
  refine ⟨?_, ?_, ?_⟩
  · have hresponded := hc.responded_le
    unfold Hop.pathCount
    dsimp only
    rw [hunique, hresponders]
    split <;> omega
  · rw [hkind, ← hc.two_le_ecmpFlows]
    split_ifs with htwo hone hpacket hone <;> simp [*]
  · have hspread : minResponsesForPerPacket ≤ R.length ∧ Spread R → 1 < R.dedup.length := fun hspread => hspread.2.one_lt
    rw [hkind]
    split_ifs with htwo hone hpacket hone
    · exact ⟨nofun, fun hle => absurd hone (not_lt.mpr hle)⟩
    · exact ⟨fun _ => not_lt.mp hone, fun _ => rfl⟩
    · exact ⟨nofun, fun hle => absurd (hspread hpacket) (not_lt.mpr hle)⟩
    · exact ⟨nofun, fun hle => absurd hone (not_lt.mpr hle)⟩
    · exact ⟨fun _ => not_lt.mp hone, fun _ => rfl⟩

/-- **Flows that are spread over several responders:** once two of them have four responses, and none of those that do
has a responder with 70% of them, they are taken for a balancing of packets, and the paths are counted exactly. -/
theorem Counted.ecmpKind_spread (hc : Counted h R F) (hpaired : Paired R F) (htwo : TwoSampled F)
    (hspread : ∀ f, minFlowResponsesForClassification ≤ (F f).length → Spread (F f)) :
    h.ecmpKind = .PerPacket ∧ h.pathCount = R.dedup.length := by
  have hresponders : h.responders.entries.length = R.dedup.length := hc.responders.length_entries
  have hmultiple : 1 < R.dedup.length := by
    obtain ⟨f, -, -, hf, -⟩ := htwo
    obtain ⟨a, ha, b, hb, hne⟩ := (Lists.one_lt_length_iff (List.nodup_dedup _)).mp (hspread f hf).one_lt
    have hmem (ip : IpAddr) (hip : ip ∈ (F f).dedup) : ip ∈ R.dedup :=
      List.mem_dedup.mpr ((hpaired ip).mpr ⟨f, List.mem_dedup.mp hip⟩)
    exact (Lists.one_lt_length_iff (List.nodup_dedup _)).mpr ⟨a, hmem a ha, b, hmem b hb, hne⟩
  have hkind : h.ecmpKind = .PerPacket := by
    have haverage := (hc.averageRatio htwo).1 hspread
    unfold Hop.ecmpKind
    dsimp only
    rw [if_pos (hc.two_le_ecmpFlows.mpr htwo), if_pos ⟨hresponders ▸ hmultiple, haverage⟩]
  have hunique := hc.uniqueFlowPrimaryCount_le hpaired
  have hresponded := hc.responded_le
  refine ⟨hkind, ?_⟩
  unfold Hop.pathCount
  dsimp only
  rw [hkind, hresponders]
  dsimp only
  omega

/-- **One flow only:** it is never taken for a balancing of flows, and for one of packets when there are eight responses
and no responder has 70% of them. -/
theorem Counted.ecmpKind_single (hc : Counted h R F) (hsingle : ∀ f g, F f ≠ [] → F g ≠ [] → f = g) :
    h.ecmpKind = if minResponsesForPerPacket ≤ R.length ∧ Spread R then .PerPacket else .None := by
  have hne (f : UInt8) (hf : minFlowResponsesForClassification ≤ (F f).length) : F f ≠ [] := by
    intro hnil
    rw [hnil] at hf
    exact absurd hf (by decide)
  have htwo : ¬ 2 ≤ h.ecmpFlows.length := by
    rw [hc.two_le_ecmpFlows]
    rintro ⟨f, g, hfg, hf, hg⟩
    exact hfg (hsingle f g (hne f hf) (hne g hg))
  have hunique : ¬ 1 < h.uniqueFlowPrimaryCount := by
    rw [one_lt_uniqueFlowPrimaryCount]
    rintro ⟨f, g, ip, ip', hf, hg, hip⟩
    obtain rfl : f = g := hsingle f g (List.ne_nil_of_mem (hc.isLeader hf).1) (List.ne_nil_of_mem (hc.isLeader hg).1)
    exact hip (Option.some.inj (hf.symm.trans hg))
  unfold Hop.ecmpKind
  dsimp only
  rw [if_neg htwo, hc.singleFlowKind, if_neg hunique]

end

/-! ## Runs -/

section

variable (flaps : Bool) (ttl : UInt8) (orders : ℕ → HopOrder) (events : List HopEvent)

/-- **The paths that are shown** after any events and in any order of the maps: balancing is reported exactly when two
are counted, none is counted only where nothing has answered, and the list has each flow that was answered once, in its
place, with a responder that no other one outnumbers. -/
theorem paths_run :
    ((run flaps ttl orders events).hasEcmp = true ↔ 2 ≤ (run flaps ttl orders events).pathCount) ∧
      ((run flaps ttl orders events).pathCount = 0 ↔
        responses events = [] ∧ ∀ f, flowResponses events f = []) ∧
      ((run flaps ttl orders events).ecmpPaths.map Prod.fst).Pairwise (· < ·) ∧
      (∀ f, f ∈ (run flaps ttl orders events).ecmpPaths.map Prod.fst ↔ flowResponses events f ≠ []) ∧
      ∀ path ∈ (run flaps ttl orders events).ecmpPaths, IsLeader (flowResponses events path.1) path.2 := by
  have hc := counted_run flaps ttl orders events
  exact ⟨hc.pathCount.1, hc.pathCount.2, hc.ecmpPaths⟩

/-- **Balanced flows**, each of which one responder serves, are told from balanced packets once two of them have four
responses, and their paths are counted exactly. Responses are recorded for the hop and its flow together, and ratios
are exact. -/
theorem steady_run (hpaired : Paired (responses events) (flowResponses events))
    (hsteady : ∀ f a b, a ∈ flowResponses events f → b ∈ flowResponses events f → a = b) :
    (run flaps ttl orders events).pathCount = (responses events).dedup.length ∧
      ((run flaps ttl orders events).ecmpKind = .PerPacket ↔ ¬ TwoSampled (flowResponses events) ∧
        minResponsesForPerPacket ≤ (responses events).length ∧ Spread (responses events)) ∧
      ((run flaps ttl orders events).ecmpKind = .None ↔ (responses events).dedup.length ≤ 1) :=
  (counted_run flaps ttl orders events).ecmpKind_steady hpaired hsteady

/-- **Balanced packets** are told from balanced flows: when two flows have four responses, and none that does has a
responder with 70% of them, or when there is one flow, eight responses and no responder with 70% of them. Responses are
recorded for the hop and its flow together, and ratios are exact. -/
theorem spread_run (hpaired : Paired (responses events) (flowResponses events)) :
    (TwoSampled (flowResponses events) →
        (∀ f, minFlowResponsesForClassification ≤ (flowResponses events f).length →
          Spread (flowResponses events f)) →
        (run flaps ttl orders events).ecmpKind = .PerPacket ∧
          (run flaps ttl orders events).pathCount = (responses events).dedup.length) ∧
      ((∀ f g, flowResponses events f ≠ [] → flowResponses events g ≠ [] → f = g) →
        (run flaps ttl orders events).ecmpKind =
          if minResponsesForPerPacket ≤ (responses events).length ∧ Spread (responses events) then .PerPacket
          else .None) := by
  have hc := counted_run flaps ttl orders events
  exact ⟨hc.ecmpKind_spread hpaired, hc.ecmpKind_single⟩

end

/-- Responses as they are recorded, each for the hop and for its flow. -/
def recordedResponses (rtt : ℕ) (l : List (UInt8 × IpAddr)) : List HopEvent :=
  l.flatMap fun p => [.response p.2 rtt none none, .flowResponse p.1 p.2]

/-- The responses that are recorded. -/
theorem responses_recordedResponses (rtt : ℕ) (l : List (UInt8 × IpAddr)) :
    responses (recordedResponses rtt l) = l.map Prod.snd := by
  induction l with
  | nil => rfl
  | cons p l ih => exact congrArg (p.2 :: ·) ih

/-- The responses that are recorded for a flow. -/
theorem flowResponses_recordedResponses (rtt : ℕ) (l : List (UInt8 × IpAddr)) (f : UInt8) :
    flowResponses (recordedResponses rtt l) f = (l.filter fun p => p.1 = f).map Prod.snd := by
  induction l with
  | nil => rfl
  | cons p l ih =>
    have hcons : recordedResponses rtt (p :: l) =
        .response p.2 rtt none none :: .flowResponse p.1 p.2 :: recordedResponses rtt l := rfl
    rw [flowResponses, hcons, List.filterMap_cons_none rfl]
    by_cases hf : p.1 = f
    · have hsome : (HopEvent.flowResponse p.1 p.2).flowResponder? f = some p.2 := if_pos hf
      have hfilter : ((p :: l).filter fun q => q.1 = f) = p :: l.filter fun q => q.1 = f :=
        List.filter_cons_of_pos (by simpa using hf)
      rw [List.filterMap_cons_some hsome, ← flowResponses, ih, hfilter, List.map_cons]
    · have hnone : (HopEvent.flowResponse p.1 p.2).flowResponder? f = none := if_neg hf
      have hfilter : ((p :: l).filter fun q => q.1 = f) = l.filter fun q => q.1 = f :=
        List.filter_cons_of_neg (by simpa using hf)
      rw [List.filterMap_cons_none hnone, ← flowResponses, ih, hfilter]

/-- Recording a response for its hop and its flow pairs them. -/
theorem paired_recordedResponses (rtt : ℕ) (l : List (UInt8 × IpAddr)) :
    Paired (responses (recordedResponses rtt l)) (flowResponses (recordedResponses rtt l)) := by
  intro ip
  simp only [responses_recordedResponses, flowResponses_recordedResponses, List.mem_map, List.mem_filter,
    decide_eq_true_eq]
  constructor
  · rintro ⟨p, hp, rfl⟩
    exact ⟨p.1, p, ⟨hp, rfl⟩, rfl⟩
  · rintro ⟨f, p, ⟨hp, -⟩, rfl⟩
    exact ⟨p, hp, rfl⟩

/-- The router of a flow. -/
def sampleRouter (f : UInt8) : IpAddr := .V4 ⟨10, 0, 0, f⟩

/-- Eight flows, one response each, and a router for every flow. -/
def sampleSteady : List (UInt8 × IpAddr) := [0, 1, 2, 3, 4, 5, 6, 7].map fun f => (f, sampleRouter f)

/-- A flow of the sample is answered by its router. -/
theorem eq_sampleRouter {p : UInt8 × IpAddr} (hp : p ∈ sampleSteady) : p.2 = sampleRouter p.1 := by
  obtain ⟨f, -, rfl⟩ := List.mem_map.mp hp
  rfl

/-- The eight paths are counted, but taken for a balancing of packets. -/
theorem steady_run_sample :
    (run false 5 (fun _ => ⟨.entries, .entries⟩) (recordedResponses 1000000 sampleSteady)).ecmpKind = .PerPacket ∧
      (run false 5 (fun _ => ⟨.entries, .entries⟩) (recordedResponses 1000000 sampleSteady)).pathCount = 8 := by
  have hrouter (f : UInt8) (ip : IpAddr) (hip : ip ∈ flowResponses (recordedResponses 1000000 sampleSteady) f) :
      ip = sampleRouter f := by
    rw [flowResponses_recordedResponses] at hip
    obtain ⟨p, hp, rfl⟩ := List.mem_map.mp hip
    obtain ⟨hp, hf⟩ := List.mem_filter.mp hp
    rw [eq_sampleRouter hp, of_decide_eq_true hf]
  obtain ⟨hcount, hkind, -⟩ := steady_run false 5 (fun _ => ⟨.entries, .entries⟩)
    (recordedResponses 1000000 sampleSteady) (paired_recordedResponses _ _)
    fun f a b ha hb => (hrouter f a ha).trans (hrouter f b hb).symm
  have htwo : ¬ TwoSampled (flowResponses (recordedResponses 1000000 sampleSteady)) := by
    rintro ⟨f, -, -, hf, -⟩
    rw [flowResponses_recordedResponses, List.length_map] at hf
    have hnodup : (sampleSteady.filter fun p => p.1 = f).Nodup := List.Nodup.filter _ (by decide)
    obtain ⟨a, ha, b, hb, hne⟩ := (Lists.one_lt_length_iff hnodup).mp (Nat.lt_of_lt_of_le (by decide) hf)
    obtain ⟨ha, haf⟩ := List.mem_filter.mp ha
    obtain ⟨hb, hbf⟩ := List.mem_filter.mp hb
    have hkey : a.1 = b.1 := (of_decide_eq_true haf).trans (of_decide_eq_true hbf).symm
    exact hne (Prod.ext hkey (by rw [eq_sampleRouter ha, eq_sampleRouter hb, hkey]))
  refine ⟨hkind.mpr ⟨htwo, by decide, by decide⟩, hcount.trans (by decide)⟩

/-- Two flows, which two routers answer in turns. -/
def sampleSpread : List (UInt8 × IpAddr) :=
  [(0, sampleRouter 1), (1, sampleRouter 2), (0, sampleRouter 2), (1, sampleRouter 1), (0, sampleRouter 1),
    (1, sampleRouter 2), (0, sampleRouter 2), (1, sampleRouter 1)]

/-- The two paths are counted, and taken for a balancing of packets. -/
theorem spread_run_sample :
    (run false 5 (fun _ => ⟨.entries, .entries⟩) (recordedResponses 1000000 sampleSpread)).ecmpKind = .PerPacket ∧
      (run false 5 (fun _ => ⟨.entries, .entries⟩) (recordedResponses 1000000 sampleSpread)).pathCount = 2 := by
  have htwo : TwoSampled (flowResponses (recordedResponses 1000000 sampleSpread)) := ⟨0, 1, by decide⟩
  have hspread (f : UInt8)
      (hf : minFlowResponsesForClassification ≤ (flowResponses (recordedResponses 1000000 sampleSpread) f).length) :
      Spread (flowResponses (recordedResponses 1000000 sampleSpread) f) := by
    by_cases h0 : f = 0
    · rw [h0]
      decide
    by_cases h1 : f = 1
    · rw [h1]
      decide
    have hnil : flowResponses (recordedResponses 1000000 sampleSpread) f = [] := by
      rw [flowResponses_recordedResponses, List.map_eq_nil_iff, List.filter_eq_nil_iff]
      intro p hp hpf
      have hkeys : ∀ p ∈ sampleSpread, p.1 = 0 ∨ p.1 = 1 := by decide
      rcases hkeys p hp with hkey | hkey
      · exact h0 ((of_decide_eq_true hpf).symm.trans hkey)
      · exact h1 ((of_decide_eq_true hpf).symm.trans hkey)
    rw [hnil] at hf
    exact absurd hf (by decide)
  obtain ⟨hkind, hcount⟩ := (spread_run false 5 (fun _ => ⟨.entries, .entries⟩)
    (recordedResponses 1000000 sampleSpread) (paired_recordedResponses _ _)).1 htwo hspread
  exact ⟨hkind, hcount.trans (by decide)⟩

end Hop

end Ttl
