import Ttl.Probe.Correlate
import Ttl.Trace.Step

/-!
# The Echo Reply poll against the receiver

On Linux the ICMPv6 engine polls its own socket for Echo Replies, which elsewhere the receiver gets. The
same packet on the two ways gives the same pending map and the same session when the entry that it answers
is that of a path MTU probe, and the receiver looks at the same target (`poll_eq_receiver_iff`). An answer
to a normal probe is counted on both ways, and recorded as an event by the receiver alone.
-/

namespace Ttl

open Bytes

/-- What is left of the pending map, and of a target's session. -/
structure Handled where
  pending : PendingMap
  session : Session

/-- `poll_ipv6_echo_reply` of the target `t`, for one packet that arrives at the time `now`. -/
def polledBy (t : IpAddr) (parsed : ParsedResponse) (response_ttl : Option UInt8) (now : ℕ)
    (pending : PendingMap) (x : Session) : Handled :=
  match (pollMatch pending t parsed).bind fun key => (pending.lookup key).map fun probe => (key, probe) with
  | some (key, probe) =>
    ⟨pending.erase key, x.applyPolled t (pollResponse parsed response_ttl probe now)⟩
  | none => ⟨pending, x⟩

/-- The receive loop for the same packet, which is applied at the time `applied`, and what it does to the
session of the target `t`. -/
def receivedBy (config : ReceiverConfig) (targets : List IpAddr) (t : IpAddr) (parsed : ParsedResponse)
    (response_ttl : Option UInt8) (now applied : ℕ) (pending : PendingMap) (x : Session) : Handled :=
  match (matchReply config pending targets parsed).bind fun key =>
    (pending.lookup key).map fun probe => (key, probe) with
  | some (key, probe) =>
    ⟨pending.erase key,
      if probe.target = t then
        x.applyResponse config applied (batchResponse parsed response_ttl probe now)
      else x⟩
  | none => ⟨pending, x⟩

/-- An event without its time. -/
def ProbeEvent.untimed (e : ProbeEvent) : UInt8 × UInt8 × UInt8 × ProbeOutcome :=
  (e.ttl, e.seq, e.flow_id, e.outcome)

/-- Two sessions that differ in nothing but the times of their events. -/
structure Session.SameButTimes (x y : Session) : Prop where
  hops : x.hops = y.hops
  events : x.events.map ProbeEvent.untimed = y.events.map ProbeEvent.untimed
  complete : x.complete = y.complete
  dest_ttl : x.dest_ttl = y.dest_ttl
  pmtud : x.pmtud = y.pmtud

/-- The two ways leave the same pending map and the same session. -/
def Handled.Same (a b : Handled) : Prop := a.pending = b.pending ∧ a.session.SameButTimes b.session

/-! ## Echo Replies as they are parsed -/

/-- What an Echo Reply does not carry. -/
structure ParsedResponse.IsEchoReply (parsed : ParsedResponse) : Prop where
  response_type : parsed.response_type = .EchoReply
  mpls_labels : parsed.mpls_labels = none
  interface_info : parsed.interface_info = none
  src_port : parsed.src_port = none
  quoted_ttl : parsed.quoted_ttl = none

/-- What the parser of Echo Replies returns is an Echo Reply. -/
theorem isEchoReply_of_parseEchoReply {icmp_data : List UInt8} {responder : IpAddr}
    {our_identifier : UInt16} {parsed : ParsedResponse}
    (h : parseEchoReply icmp_data responder our_identifier = .ok parsed) : parsed.IsEchoReply := by
  obtain ⟨probe_id, -, h⟩ := bind_eq_ok.mp h
  obtain ⟨payload, -, h⟩ := bind_eq_ok.mp h
  obtain rfl := Except.ok.inj h
  exact ⟨rfl, rfl, rfl, rfl, rfl⟩

/-- An error message is parsed as what it is. -/
theorem response_type_of_parseIcmpErrorPayloadV6Dgram {icmp_data : List UInt8} {responder : IpAddr}
    {our_identifier : UInt16} {response_type : IcmpResponseType} {mtu : Option UInt16}
    {parsed : ParsedResponse}
    (h : parseIcmpErrorPayloadV6Dgram icmp_data responder our_identifier response_type mtu = .ok parsed) :
    parsed.response_type = response_type := by
  unfold parseIcmpErrorPayloadV6Dgram at h
  split_ifs at h
  obtain ⟨_, -, h⟩ := bind_eq_ok.mp h
  obtain ⟨_, -, h⟩ := bind_eq_ok.mp h
  obtain ⟨_, -, h⟩ := bind_eq_ok.mp h
  obtain ⟨_, -, h⟩ := bind_eq_ok.mp h
  obtain ⟨_, -, h⟩ := bind_eq_ok.mp h
  obtain ⟨_, -, h⟩ := bind_eq_ok.mp h
  dsimp only at h
  split_ifs at h
  obtain ⟨_, -, h⟩ := bind_eq_ok.mp h
  obtain ⟨_, -, h⟩ := bind_eq_ok.mp h
  obtain ⟨_, -, h⟩ := bind_eq_ok.mp h
  obtain rfl := Except.ok.inj h
  rfl

/-- An ICMPv6 packet that is parsed as an Echo Reply is one. -/
theorem isEchoReply_of_parseIcmpResponse {data : List UInt8} {responder : IpAddr}
    {our_identifier : UInt16} {is_dgram : Bool} {parsed : ParsedResponse}
    (hv6 : responder.isIpv6 = true)
    (h : parseIcmpResponse data responder our_identifier is_dgram = .ok parsed)
    (hecho : parsed.response_type = .EchoReply) : parsed.IsEchoReply := by
  -- Both kinds of socket deliver the ICMPv6 message alone.
  have hdgram : parseIcmpResponseV6Dgram data responder our_identifier = .ok parsed := by
    unfold parseIcmpResponse at h
    split_ifs at h
    · exact h
    · exact h
  unfold parseIcmpResponseV6Dgram at hdgram
  split_ifs at hdgram
  obtain ⟨icmp_type, -, h⟩ := bind_eq_ok.mp hdgram
  obtain ⟨icmp_code, -, h⟩ := bind_eq_ok.mp h
  split_ifs at h
  · exact isEchoReply_of_parseEchoReply h
  · obtain ⟨mtu, -, h⟩ := bind_eq_ok.mp h
    rw [response_type_of_parseIcmpErrorPayloadV6Dgram h] at hecho
    cases hecho
  · rw [response_type_of_parseIcmpErrorPayloadV6Dgram h] at hecho
    cases hecho
  · rw [response_type_of_parseIcmpErrorPayloadV6Dgram h] at hecho
    cases hecho

/-! ## The two ways -/

section

variable {config : ReceiverConfig} {targets : List IpAddr} {t : IpAddr} {parsed : ParsedResponse}
  {response_ttl : Option UInt8} {now applied : ℕ} {pending : PendingMap} {x : Session}
  {key : PendingKey} {probe : PendingProbe}

/-- The poll with the entry that it takes. -/
theorem polledBy_of_match (h : pollMatch pending t parsed = some key)
    (entry : pending.lookup key = some probe) :
    polledBy t parsed response_ttl now pending x =
      ⟨pending.erase key, x.applyPolled t (pollResponse parsed response_ttl probe now)⟩ := by
  rw [polledBy, h, Option.bind_some, entry]
  rfl

/-- The receiver with the entry that it takes. -/
theorem receivedBy_of_match (h : matchReply config pending targets parsed = some key)
    (entry : pending.lookup key = some probe) (target : probe.target = t) :
    receivedBy config targets t parsed response_ttl now applied pending x =
      ⟨pending.erase key,
        x.applyResponse config applied (batchResponse parsed response_ttl probe now)⟩ := by
  rw [receivedBy, h, Option.bind_some, entry]
  dsimp only [Option.map_some]
  rw [if_pos target]

/-- A receiver that leaves the same pending map as a poll took the same entry. -/
theorem matchReply_of_erase_eq (hkey : key ∈ pending)
    (h : (receivedBy config targets t parsed response_ttl now applied pending x).pending =
      pending.erase key) : matchReply config pending targets parsed = some key := by
  unfold receivedBy at h
  split at h
  · next key' probe' hmatch =>
    obtain ⟨k, hk, hentry⟩ := Option.bind_eq_some_iff.mp hmatch
    obtain ⟨p, hp, heq⟩ := Option.map_eq_some_iff.mp hentry
    obtain ⟨rfl, rfl⟩ := Prod.mk.injEq .. ▸ heq
    by_cases hne : key = k
    · rw [hk, hne]
    · -- Otherwise the entry that the poll took is still there.
      have hmem : key ∈ pending.erase k := AList.mem_erase.mpr ⟨hne, hkey⟩
      dsimp only at h
      rw [h] at hmem
      exact absurd rfl (AList.mem_erase.mp hmem).1
  · -- With no match the entry is still there as well.
    dsimp only at h
    rw [h] at hkey
    exact absurd rfl (AList.mem_erase.mp hkey).1

/-- An Echo Reply names no flow, and so the one of a run with one flow. -/
theorem deriveFlowHint_of_isEchoReply (hecho : parsed.IsEchoReply) (hflows : config.num_flows = 1) :
    deriveFlowHint config parsed.src_port = some 0 := by
  rw [hecho.src_port]
  exact if_pos hflows

/-- With the flow named, the receiver takes an entry of it, and the target is the first that has one. -/
theorem key_of_matchReply (hecho : parsed.IsEchoReply) (hflows : config.num_flows = 1)
    (h : matchReply config pending targets parsed = some key) :
    key = ⟨parsed.probe_id, 0, key.target, key.is_pmtud⟩ := by
  have hchosen := (chosen_of_matchReply h).2
  rw [deriveFlowHint_of_isEchoReply hecho hflows] at hchosen
  generalize htarget : key.target = target at hchosen
  cases hchosen <;> rfl

/-- An answer to a path MTU probe does the same to the session on both ways. -/
theorem applyPolled_eq_applyResponse (hecho : parsed.IsEchoReply) {size : ℕ}
    (hsize : probe.packet_size = some size) (htarget : probe.target = t) :
    x.applyPolled t (pollResponse parsed response_ttl probe now) =
      x.applyResponse config applied (batchResponse parsed response_ttl probe now) := by
  have harrived : (batchResponse parsed response_ttl probe now).arrived =
      decide (parsed.responder = t) := by
    simp [BatchedResponse.arrived, batchResponse, hecho.response_type, htarget]
  have hsuccess : (batchResponse parsed response_ttl probe now).observation = .success := by
    simp [BatchedResponse.observation, batchResponse, hecho.response_type, IcmpResponseType.isFragNeeded]
  rw [Session.applyPolled_eq, Session.applyResponse_eq, harrived, hsuccess]
  simp only [pollResponse, batchResponse, hsize, Option.isSome_some, if_true, decide_eq_true_iff]
  rfl

/-- Whatever is pending, and whatever the phase of the search, an Echo Reply for a pending probe of the
target leaves the same pending map and the same session on both ways exactly when no normal probe of the
target has its `ProbeId`, so that it answers the path MTU probe, and the target is the first one for which
the receiver finds a candidate. -/
theorem poll_eq_receiver_iff {data : List UInt8} {responder : IpAddr} {our_identifier : UInt16}
    {is_dgram : Bool} (hv6 : responder.isIpv6 = true)
    (hparse : parseIcmpResponse data responder our_identifier is_dgram = .ok parsed)
    (hecho : parsed.response_type = .EchoReply) (hflows : config.num_flows = 1)
    (hkeyed : pending.WellKeyed)
    (haddressed : ∃ is_pmtud, ⟨parsed.probe_id, 0, t, is_pmtud⟩ ∈ pending) :
    (polledBy t parsed response_ttl now pending x).Same
        (receivedBy config targets t parsed response_ttl now applied pending x) ↔
      ⟨parsed.probe_id, 0, t, false⟩ ∉ pending ∧
        (parsed.candidates targets).find? (parsed.Finds config pending) = some t := by
  have hreply := isEchoReply_of_parseIcmpResponse hv6 hparse hecho
  -- The poll takes an entry of the target.
  obtain ⟨key, hpoll⟩ : ∃ key, pollMatch pending t parsed = some key := by
    obtain ⟨is_pmtud, hmem⟩ := haddressed
    unfold pollMatch
    rw [if_pos hecho]
    cases is_pmtud <;> split_ifs <;> exact ⟨_, rfl⟩
  obtain ⟨hmem, hkey, -⟩ := pollMatch_spec hpoll
  obtain ⟨probe, hentry⟩ := Option.isSome_iff_exists.mp (AList.lookup_isSome.mpr hmem)
  have hagrees := hkeyed key probe hentry
  have htarget : probe.target = t := by rw [hagrees.target, hkey]
  rw [polledBy_of_match hpoll hentry]
  constructor
  · rintro ⟨hpending, hsession⟩
    have hmatch := matchReply_of_erase_eq hmem hpending.symm
    rw [receivedBy_of_match hmatch hentry htarget] at hsession
    refine ⟨fun hnormal => ?_, ?_⟩
    · -- An answer to the normal probe is an event for the receiver.
      have hclass : key.is_pmtud = false := by
        unfold pollMatch at hpoll
        rw [if_pos hecho, if_pos hnormal] at hpoll
        rw [← Option.some.inj hpoll]
      have hsize : probe.packet_size.isSome = false := by rw [← hagrees.class_iff, hclass]
      have hevents := congrArg List.length hsession.events
      rw [Session.applyPolled_eq, (Session.applyResponse_frame _ _ _ _).2.2.2.2] at hevents
      simp [batchResponse, hsize] at hevents
    · have hfirst := (chosen_of_matchReply hmatch).1
      rw [hkey] at hfirst
      exact hfirst
  · rintro ⟨hnormal, hfirst⟩
    obtain ⟨key', hmatch, htarget'⟩ := exists_matchReply hfirst
    -- Both take the path MTU probe, which is the only one there.
    have hpmtud : ∀ key : PendingKey, key ∈ pending → key = ⟨parsed.probe_id, 0, t, key.is_pmtud⟩ →
        key = ⟨parsed.probe_id, 0, t, true⟩ := by
      intro key hmem hkey
      cases hclass : key.is_pmtud with
      | true => rw [hkey, hclass]
      | false =>
        rw [hkey, hclass] at hmem
        exact absurd hmem hnormal
    have hkey' := key_of_matchReply hreply hflows hmatch
    rw [htarget'] at hkey'
    have hsame : key' = key := by
      rw [hpmtud key' (matchReply_spec hmatch).1 hkey', hpmtud key hmem hkey]
    rw [hsame] at hmatch
    have hsome : probe.packet_size.isSome = true := by
      rw [← hagrees.class_iff, hpmtud key hmem hkey]
    obtain ⟨size, hsize⟩ := Option.isSome_iff_exists.mp hsome
    rw [receivedBy_of_match hmatch hentry htarget, applyPolled_eq_applyResponse hreply hsize htarget]
    exact ⟨rfl, rfl, rfl, rfl, rfl, rfl⟩

end

/-! ## On one packet -/

/-- An IPv6 target. -/
def sampleTargetV6 : IpAddr := .V6 ⟨0x2001, 0xdb8, 0, 0, 0, 0, 0, 1⟩

/-- An Echo Reply with the identifier 0x1234, for the `ProbeId` with TTL 5 and sequence number 7. -/
def echoPacket : List UInt8 := [129, 0, 0, 0, 0x12, 0x34, 5, 7]

/-- The packet as it is parsed. -/
def echoParsed : ParsedResponse :=
  ⟨sampleTargetV6, ⟨5, 7⟩, .EchoReply, false, none, none, none, none, none, some sampleTargetV6⟩

/-- The receiver of an ICMP run. -/
def sampleReceiver : ReceiverConfig := ⟨3 * 10^9, 50000, 1⟩

/-- A session of the target with 30 TTLs. -/
def sampleSessionV6 : Session :=
  Session.new sampleTargetV6 ⟨none, 10^9, 30, 3 * 10^9, .Icmp, 1, 50000, true, false⟩ 0

/-- The path MTU probe pending, and no other. -/
def pmtudPending : PendingMap :=
  (∅ : PendingMap).insert ⟨⟨5, 7⟩, 0, sampleTargetV6, true⟩ ⟨0, sampleTargetV6, 0, none, some 1400⟩

/-- The normal probe pending, and no other. -/
def normalPending : PendingMap :=
  (∅ : PendingMap).insert ⟨⟨5, 7⟩, 0, sampleTargetV6, false⟩ ⟨0, sampleTargetV6, 0, none, none⟩

/-- The sample is keyed by its probe. -/
theorem wellKeyed_pmtudPending : pmtudPending.WellKeyed := by
  intro key probe h
  rw [pmtudPending, KeyMap.lookup_insert] at h
  split_ifs at h with hk
  · obtain rfl := Option.some.inj h
    rw [hk]
    exact ⟨rfl, rfl, rfl⟩
  · cases h

/-- The packet of the sample is parsed. -/
theorem parse_echoPacket : parseIcmpResponse echoPacket sampleTargetV6 0x1234 false = .ok echoParsed := rfl

/-- For the path MTU probe the two ways agree. -/
theorem poll_eq_receiver_pmtud :
    (polledBy sampleTargetV6 echoParsed none 1000 pmtudPending sampleSessionV6).Same
      (receivedBy sampleReceiver [sampleTargetV6] sampleTargetV6 echoParsed none 1000 2000 pmtudPending
        sampleSessionV6) :=
  (poll_eq_receiver_iff rfl parse_echoPacket rfl rfl wellKeyed_pmtudPending ⟨true, by decide⟩).mpr
    ⟨by decide, by decide⟩

/-- For the normal probe, which both count, the receiver records an event and the poll none. -/
theorem poll_eq_receiver_fails_normal :
    parseIcmpResponse echoPacket sampleTargetV6 0x1234 false = .ok echoParsed ∧
    (polledBy sampleTargetV6 echoParsed none 1000 normalPending sampleSessionV6).session.events = [] ∧
    (receivedBy sampleReceiver [sampleTargetV6] sampleTargetV6 echoParsed none 1000 2000 normalPending
      sampleSessionV6).session.events = [⟨0, 5, 7, 0, .Reply sampleTargetV6 1⟩] ∧
    ¬ (polledBy sampleTargetV6 echoParsed none 1000 normalPending sampleSessionV6).Same
      (receivedBy sampleReceiver [sampleTargetV6] sampleTargetV6 echoParsed none 1000 2000 normalPending
        sampleSessionV6) := by
  refine ⟨parse_echoPacket, rfl, rfl, ?_⟩
  rintro ⟨-, h⟩
  have hevents := h.events
  cases hevents

end Ttl
