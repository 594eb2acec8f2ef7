import Ttl.State.Tally
import Ttl.Trace.Pending

/-!
# The receiver

The steps of `Receiver::run_blocking` (`src/trace/receiver.rs`) as functions: the flow hint and the
match of a parsed reply against the pending map, what a matched reply does to its target's session, and
what a probe that timed out does there. How the steps interleave with the engines is in
`Ttl.Trace.Tracer`.
-/

namespace Ttl

/-- `ReceiverConfig`, of one address family. -/
structure ReceiverConfig where
  timeout : ℕ
  src_port_base : UInt16
  num_flows : UInt8
deriving DecidableEq

/-- `BatchedResponse`: a matched reply until it is applied. -/
structure BatchedResponse where
  probe_id : ProbeId
  responder : IpAddr
  rtt : ℕ
  mpls_labels : Option (List MplsLabel)
  interface_info : Option (List IcmpInterfaceInfo)
  response_type : IcmpResponseType
  target : IpAddr
  flow_id : UInt8
  original_src_port : Option UInt16
  returned_src_port : Option UInt16
  /-- Size of a PMTUD probe. -/
  packet_size : Option ℕ
  reported_mtu : Option UInt16
  /-- TTL of the response's own IP header. -/
  response_ttl : Option UInt8
  quoted_ttl : Option UInt8
deriving DecidableEq

/-- `derive_flow_hint`: the flow of a source port in the range, the sum in `u16`. -/
def deriveFlowHint (config : ReceiverConfig) (src_port : Option UInt16) : Option UInt8 :=
  match src_port with
  | some port =>
    if config.src_port_base ≤ port ∧ port < config.src_port_base + config.num_flows.toUInt16 then
      some (port - config.src_port_base).toUInt8
    else none
  | none => if config.num_flows = 1 then some 0 else none

/-- Fragmentation Needed or Packet Too Big. -/
def IcmpResponseType.isFragNeeded (t : IcmpResponseType) : Bool :=
  t = .DestUnreachable 4 ∨ t = .PacketTooBig

/-- `is_pmtud_response` of the receive loop: the class of pending probe that the reply prefers. -/
def ParsedResponse.isPmtudResponse (parsed : ParsedResponse) : Bool :=
  parsed.is_pmtud ∨ parsed.response_type.isFragNeeded

/-- The match of the receive loop: the key of the pending probe that the reply removes. The original
destination is tried first, and then every traced target, in the order `targets` in which the session
map lists them. -/
def matchReply (config : ReceiverConfig) (pending : PendingMap) (targets : List IpAddr)
    (parsed : ParsedResponse) : Option PendingKey :=
  let lookup := fun target =>
    removePendingByFlowHint pending parsed.probe_id target (deriveFlowHint config parsed.src_port)
      parsed.isPmtudResponse
  match parsed.original_dest.bind lookup with
  | some key => some key
  -- A reply without a destination, or whose destination has no candidate, is tried for everyone.
  | none => targets.findSome? lookup

/-- The batch entry of a reply that matched `probe` at the time `now`. -/
def batchResponse (parsed : ParsedResponse) (response_ttl : Option UInt8) (probe : PendingProbe)
    (now : ℕ) : BatchedResponse where
  probe_id := parsed.probe_id
  responder := parsed.responder
  rtt := now - probe.sent_at
  mpls_labels := parsed.mpls_labels
  interface_info := parsed.interface_info
  response_type := parsed.response_type
  target := probe.target
  flow_id := probe.flow_id
  original_src_port := probe.original_src_port
  returned_src_port := parsed.src_port
  packet_size := probe.packet_size
  reported_mtu := parsed.mtu
  response_ttl := response_ttl
  quoted_ttl := parsed.quoted_ttl

/-- The late reply event of a reply that matched nothing. -/
def lateReplyEvent (config : ReceiverConfig) (parsed : ParsedResponse) (offset_ms : ℕ) :
    ProbeEvent where
  offset_ms := offset_ms
  ttl := parsed.probe_id.ttl
  seq := parsed.probe_id.seq
  flow_id := (deriveFlowHint config parsed.src_port).getD 0
  outcome := .LateReply parsed.responder 0

/-- The hop's part of a response to a normal probe. -/
def Hop.applyResponse (config : ReceiverConfig) (resp : BatchedResponse) (h : Hop) : Hop :=
  -- With several flows, a change of the responder is load balancing and no route change.
  let h :=
    if config.num_flows = 1 then
      h.recordResponseDetectingFlapsWithExtensions resp.responder resp.rtt resp.mpls_labels
        resp.interface_info
    else
      h.recordResponseWithExtensions resp.responder resp.rtt resp.mpls_labels resp.interface_info
  let h := h.recordFlowResponse resp.flow_id resp.responder
  let h := h.recordNatCheck resp.original_src_port resp.returned_src_port
  let h := match resp.response_ttl with
    | some ttl => if config.num_flows = 1 then h.recordResponseTtl ttl else h
    | none => h
  match resp.quoted_ttl with
  | some quoted => if resp.response_type = .TimeExceeded 0 then h.recordTtlManipCheck quoted else h
  | none => h

/-- The event of a response to a normal probe. -/
def BatchedResponse.event (resp : BatchedResponse) (offset_ms : ℕ) : ProbeEvent where
  offset_ms := offset_ms
  ttl := resp.probe_id.ttl
  seq := resp.probe_id.seq
  flow_id := resp.flow_id
  outcome := .Reply resp.responder (asMicros resp.rtt)

/-- What a response tells the path MTU search: a failure with the reported MTU when it is Fragmentation
Needed or Packet Too Big, and a success otherwise. -/
def BatchedResponse.observation (resp : BatchedResponse) : PmtudState.Observation :=
  if resp.response_type.isFragNeeded then
    match resp.reported_mtu with
    | some mtu => .fragNeeded mtu.toNat
    | none => .failure
  else .success

/-- The batch apply of one response to its target's session. -/
def Session.applyResponse (config : ReceiverConfig) (now : ℕ) (resp : BatchedResponse) (s : Session) :
    Session :=
  -- A path MTU probe is none of the hop's statistics.
  let s :=
    if resp.packet_size.isSome then s
    else (s.hopMut resp.probe_id.ttl (Hop.applyResponse config resp)).recordEvent
      (resp.event (s.offsetMs now))
  let s :=
    if resp.response_type = .EchoReply ∧ resp.responder = resp.target then
      s.markDestination resp.probe_id.ttl
    else s
  s.onCurrentSize resp.packet_size (·.observe resp.observation)

/-- The event of a probe that timed out. -/
def timeoutEvent (key : PendingKey) (probe : PendingProbe) (offset_ms : ℕ) : ProbeEvent where
  offset_ms := offset_ms
  ttl := key.probe_id.ttl
  seq := key.probe_id.seq
  flow_id := probe.flow_id
  outcome := .Timeout

/-- `record_pending_timeouts`, for one probe. -/
def Session.recordPendingTimeout (now : ℕ) (record_events update_pmtud : Bool) (key : PendingKey)
    (probe : PendingProbe) (s : Session) : Session :=
  let s :=
    if key.is_pmtud then s
    else
      let s := s.hopMut key.probe_id.ttl fun h => h.recordTimeout.recordFlowTimeout probe.flow_id
      if record_events then s.recordEvent (timeoutEvent key probe (s.offsetMs now)) else s
  if update_pmtud then s.onCurrentSize probe.packet_size PmtudState.recordFailure else s

/-! ## What a match removes -/

/-- The target has a candidate for the reply. -/
def ParsedResponse.Finds (config : ReceiverConfig) (pending : PendingMap) (parsed : ParsedResponse)
    (target : IpAddr) : Prop :=
  Answers pending parsed.probe_id (deriveFlowHint config parsed.src_port) parsed.isPmtudResponse target

/-- The targets in the order in which the receive loop tries them. -/
def ParsedResponse.candidates (parsed : ParsedResponse) (targets : List IpAddr) : List IpAddr :=
  parsed.original_dest.toList ++ targets

section

variable {config : ReceiverConfig} {pending : PendingMap} {targets : List IpAddr}
  {parsed : ParsedResponse} {key : PendingKey}

instance {target : IpAddr} : Decidable (parsed.Finds config pending target) :=
  inferInstanceAs (Decidable (Answers _ _ _ _ _))

/-- A match is a lookup for the first target that has a candidate. -/
theorem matchReply_eq :
    matchReply config pending targets parsed =
      ((parsed.candidates targets).find? (parsed.Finds config pending)).bind fun target =>
        removePendingByFlowHint pending parsed.probe_id target
          (deriveFlowHint config parsed.src_port) parsed.isPmtudResponse := by
  -- The lookup has a value exactly for the targets that have a candidate.
  have hfind : (fun target => decide (parsed.Finds config pending target)) = fun target =>
      (removePendingByFlowHint pending parsed.probe_id target
        (deriveFlowHint config parsed.src_port) parsed.isPmtudResponse).isSome := by
    funext target
    rw [Bool.eq_iff_iff, decide_eq_true_iff]
    exact isSome_removePendingByFlowHint.symm
  rw [hfind, ← findSome?_eq_bind_find?, ParsedResponse.candidates, List.findSome?_append]
  unfold matchReply
  cases parsed.original_dest with
  | none => rfl
  | some target =>
    simp only [Option.bind_some, Option.toList_some, List.findSome?_cons, List.findSome?_nil]
    split <;> simp_all

/-- What a match takes, the rule chooses for the first target that has a candidate. -/
theorem chosen_of_matchReply (h : matchReply config pending targets parsed = some key) :
    (parsed.candidates targets).find? (parsed.Finds config pending) = some key.target ∧
      Chosen pending parsed.probe_id key.target parsed.isPmtudResponse
        (deriveFlowHint config parsed.src_port) key := by
  rw [matchReply_eq] at h
  obtain ⟨target, hfind, hlookup⟩ := Option.bind_eq_some_iff.mp h
  have hc := chosen_of_removePendingByFlowHint hlookup
  rw [hc.spec.2.2.1]
  exact ⟨hfind, hc⟩

/-- Where some target has a candidate, something is matched for the first of them. -/
theorem exists_matchReply {target : IpAddr}
    (h : (parsed.candidates targets).find? (parsed.Finds config pending) = some target) :
    ∃ key, matchReply config pending targets parsed = some key ∧ key.target = target := by
  have hfinds : parsed.Finds config pending target := by simpa using List.find?_some h
  obtain ⟨key, hkey⟩ := Option.isSome_iff_exists.mp (isSome_removePendingByFlowHint.mpr hfinds)
  refine ⟨key, ?_, (chosen_of_removePendingByFlowHint hkey).spec.2.2.1⟩
  rw [matchReply_eq, h]
  exact hkey

/-- A matched key is pending, with the reply's `ProbeId`. -/
theorem matchReply_spec (h : matchReply config pending targets parsed = some key) :
    key ∈ pending ∧ key.probe_id = parsed.probe_id := by
  obtain ⟨hmem, hid, -⟩ := (chosen_of_matchReply h).2.spec
  exact ⟨hmem, hid⟩

end

/-- The key of the entry that a response answers. -/
def BatchedResponse.key (resp : BatchedResponse) : PendingKey :=
  ⟨resp.probe_id, resp.flow_id, resp.target, resp.packet_size.isSome⟩

/-- What a reply matched keeps its key. -/
theorem key_batchResponse {key : PendingKey} {parsed : ParsedResponse} {response_ttl : Option UInt8}
    {probe : PendingProbe} {now : ℕ} (h : key.Agrees probe) (hid : key.probe_id = parsed.probe_id) :
    (batchResponse parsed response_ttl probe now).key = key := by
  obtain ⟨htarget, hflow, hclass⟩ := h
  simp only [BatchedResponse.key, batchResponse, htarget, hflow, ← hclass, ← hid]

/-! ## What the steps do to sessions -/

/-- A response that shows that the target was reached. -/
def BatchedResponse.arrived (resp : BatchedResponse) : Bool :=
  resp.response_type = .EchoReply ∧ resp.responder = resp.target

/-- The batch apply, field by field. -/
theorem Session.applyResponse_eq (config : ReceiverConfig) (now : ℕ) (resp : BatchedResponse)
    (s : Session) :
    s.applyResponse config now resp =
      { s with
        hops := if resp.packet_size.isSome then s.hops
          else (s.hopMut resp.probe_id.ttl (Hop.applyResponse config resp)).hops
        events := if resp.packet_size.isSome then s.events
          else s.events ++ [resp.event (s.offsetMs now)]
        complete := if resp.arrived then true else s.complete
        dest_ttl := if resp.arrived then (s.markDestination resp.probe_id.ttl).dest_ttl
          else s.dest_ttl
        pmtud := (s.onCurrentSize resp.packet_size (·.observe resp.observation)).pmtud } := by
  unfold applyResponse
  -- The two conditions are about different fields, so each of the four cases is by computation.
  by_cases hp : resp.packet_size.isSome <;> by_cases ha : resp.arrived <;>
    (have ha' := ha
     simp only [BatchedResponse.arrived, decide_eq_true_eq] at ha'
     simp only [hp, ha, ha', if_true, if_false]
     rfl)

/-- The record of a timeout, field by field. -/
theorem Session.recordPendingTimeout_eq (now : ℕ) (record_events update_pmtud : Bool)
    (key : PendingKey) (probe : PendingProbe) (s : Session) :
    s.recordPendingTimeout now record_events update_pmtud key probe =
      { s with
        hops := if key.is_pmtud then s.hops
          else (s.hopMut key.probe_id.ttl fun h =>
            h.recordTimeout.recordFlowTimeout probe.flow_id).hops
        events := if ! key.is_pmtud && record_events then
            s.events ++ [timeoutEvent key probe (s.offsetMs now)]
          else s.events
        pmtud := if update_pmtud then
            (s.onCurrentSize probe.packet_size PmtudState.recordFailure).pmtud
          else s.pmtud } := by
  unfold recordPendingTimeout
  cases key.is_pmtud <;> cases record_events <;> cases update_pmtud <;> rfl

/-- What the batch apply leaves alone, and the event that it records. -/
theorem Session.applyResponse_frame (config : ReceiverConfig) (now : ℕ) (resp : BatchedResponse)
    (s : Session) :
    (s.applyResponse config now resp).target = s.target ∧
      (s.applyResponse config now resp).config = s.config ∧
      (s.applyResponse config now resp).started_instant = s.started_instant ∧
      (s.applyResponse config now resp).hops.length = s.hops.length ∧
      (s.applyResponse config now resp).events =
        if resp.packet_size.isSome then s.events else s.events ++ [resp.event (s.offsetMs now)] := by
  rw [applyResponse_eq]
  refine ⟨rfl, rfl, rfl, ?_, rfl⟩
  dsimp only
  split_ifs
  · rfl
  · exact length_hopMut _ _ _

/-- What the record of a timeout leaves alone, and the event that it records. -/
theorem Session.recordPendingTimeout_frame (now : ℕ) (record_events update_pmtud : Bool)
    (key : PendingKey) (probe : PendingProbe) (s : Session) :
    (s.recordPendingTimeout now record_events update_pmtud key probe).target = s.target ∧
      (s.recordPendingTimeout now record_events update_pmtud key probe).config = s.config ∧
      (s.recordPendingTimeout now record_events update_pmtud key probe).started_instant =
        s.started_instant ∧
      (s.recordPendingTimeout now record_events update_pmtud key probe).hops.length =
        s.hops.length ∧
      (s.recordPendingTimeout now record_events update_pmtud key probe).events =
        if ! key.is_pmtud && record_events then
          s.events ++ [timeoutEvent key probe (s.offsetMs now)]
        else s.events := by
  rw [recordPendingTimeout_eq]
  refine ⟨rfl, rfl, rfl, ?_, rfl⟩
  dsimp only
  split_ifs
  · rfl
  · exact length_hopMut _ _ _

/-- A response of a batch is tallied for its responder. -/
@[simp]
theorem Hop.tally_applyResponse (config : ReceiverConfig) (resp : BatchedResponse) (h : Hop) :
    (h.applyResponse config resp).tally = h.tally.addResponse resp.responder resp.rtt := by
  unfold applyResponse
  cases resp.response_ttl <;> cases resp.quoted_ttl <;> dsimp only <;> split_ifs <;> simp

namespace Session

/-- A response to a normal probe counts at the hop of its TTL, and one to a PMTUD probe nowhere. -/
theorem tally_applyResponse {config : ReceiverConfig} {now : ℕ} {resp : BatchedResponse}
    {s : Session} (h : (s.hop resp.probe_id.ttl).isSome) (k : UInt8) :
    (s.applyResponse config now resp).tally k =
      if resp.packet_size = none ∧ k = resp.probe_id.ttl then
        (s.tally k).addResponse resp.responder resp.rtt
      else s.tally k := by
  have hmark : ∀ s' : Session,
      (if resp.response_type = .EchoReply ∧ resp.responder = resp.target then
        s'.markDestination resp.probe_id.ttl else s').tally k = s'.tally k := by
    intro s'
    split_ifs <;> simp
  -- Neither the destination nor the search is part of a tally.
  simp only [applyResponse, tally_onCurrentSize, hmark]
  cases hp : resp.packet_size with
  | none =>
    have hupd := @tally_hopMut s _ _ (·.addResponse resp.responder resp.rtt)
      (Hop.tally_applyResponse config resp) h k
    simpa using hupd
  | some size => simp

/-- A normal probe that timed out counts at the hop of its TTL, and a PMTUD probe nowhere. -/
theorem tally_recordPendingTimeout {now : ℕ} {record_events update_pmtud : Bool} {key : PendingKey}
    {probe : PendingProbe} {s : Session} (h : (s.hop key.probe_id.ttl).isSome) (k : UInt8) :
    (s.recordPendingTimeout now record_events update_pmtud key probe).tally k =
      if key.is_pmtud = false ∧ k = key.probe_id.ttl then (s.tally k).addTimeout
      else s.tally k := by
  have hpm : ∀ s' : Session,
      (if update_pmtud then s'.onCurrentSize probe.packet_size PmtudState.recordFailure
        else s').tally k = s'.tally k := by
    intro s'
    split_ifs <;> simp
  have htimeout : ∀ h : Hop,
      (h.recordTimeout.recordFlowTimeout probe.flow_id).tally = h.tally.addTimeout := by simp
  simp only [recordPendingTimeout, hpm]
  cases hp : key.is_pmtud with
  | false =>
    have hupd := @tally_hopMut s _ _ Tally.addTimeout htimeout h k
    cases record_events <;> simpa using hupd
  | true => simp

end Session

end Ttl
