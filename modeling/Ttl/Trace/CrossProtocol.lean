import Ttl.Probe.Quote
import Ttl.Trace.Sound

/-!
# Errors that quote another protocol

A raw socket delivers every ICMP error of the host, whatever the quoted packet was sent for. A pending
key has no protocol, and neither the parser nor the match looks at the protocol of the run. What keeps
foreign errors out is only what the parser asks of each protocol: our identifier in an Echo Request, the
magic number in a UDP payload, and of a TCP segment nothing.

`cross_protocol_isolation` states this for any state of a run. An error that quotes a foreign packet
without the mark of its own protocol changes nothing, and one with the mark can take only a pending probe
with the `ProbeId` at the place of the mark.
-/

namespace Ttl

open Bytes Runs

/-- What the parser accepts as a probe of each kind, and the `ProbeId` that it takes from it. -/
def Marked (ipv6 : Bool) (our_identifier : UInt16) (body : List UInt8) (probe_id : ProbeId) :
    ProbeProtocol → Prop
  | .Icmp =>
    byte body 0 = .ok (echoType ipv6) ∧ ∃ sequence, probe_id = ProbeId.fromSequence sequence ∧
      (be16 body 4 = .ok our_identifier ∧ be16 body 6 = .ok sequence ∨
        be16 body 8 = .ok our_identifier ∧ be16 body 10 = .ok sequence)
  | .Udp =>
    byte body 10 = .ok 0x54 ∧ byte body 11 = .ok 0x54 ∧ byte body 12 = .ok 0x4C ∧
      ∃ sequence, probe_id = ProbeId.fromSequence sequence ∧ be16 body 8 = .ok sequence
  | .Tcp => ∃ sequence, probe_id = ProbeId.fromSequence sequence ∧ be16 body 4 = .ok sequence

/-! ## What the parser accepts -/

section

variable {ipv6 : Bool} {our_identifier : UInt16} {body : List UInt8} {probe_id : ProbeId}
  {src_port : Option UInt16}

/-- The payload of an Echo message begins with our identifier. -/
theorem extractIdFromPayload_spec {payload : List UInt8} {ids : UInt16 × UInt16}
    (h : extractIdFromPayload payload our_identifier = .ok (some ids)) :
    be16 payload 0 = .ok our_identifier ∧ be16 payload 2 = .ok ids.2 := by
  unfold extractIdFromPayload at h
  split_ifs at h with hshort
  · cases h
  · rw [bind_eq_ok] at h
    obtain ⟨payload_id, hid, h⟩ := h
    rw [bind_eq_ok] at h
    obtain ⟨payload_seq, hseq, h⟩ := h
    have hsome := Except.ok.inj h
    split_ifs at hsome with hours
    obtain rfl := Option.some.inj hsome
    exact ⟨hours ▸ hid, hseq⟩

/-- An Echo message is identified by its header or by its payload. -/
theorem echoProbeId_spec (h : echoProbeId body our_identifier = .ok probe_id) :
    ∃ sequence, probe_id = ProbeId.fromSequence sequence ∧
      (be16 body 4 = .ok our_identifier ∧ be16 body 6 = .ok sequence ∨
        be16 body 8 = .ok our_identifier ∧ be16 body 10 = .ok sequence) := by
  unfold echoProbeId at h
  rw [bind_eq_ok] at h
  obtain ⟨identifier, hid, h⟩ := h
  rw [bind_eq_ok] at h
  obtain ⟨sequence, hseq, h⟩ := h
  split_ifs at h with hours hlen
  · exact ⟨sequence, (Except.ok.inj h).symm, .inl ⟨hours ▸ hid, hseq⟩⟩
  · -- The header has another identifier, so ours is at the start of the payload, at byte 8.
    rw [dropFrom_ok (by omega), ok_bind, bind_eq_ok] at h
    obtain ⟨ids, hids, h⟩ := h
    cases ids with
    | none => cases h
    | some ids =>
      obtain ⟨hpid, hpseq⟩ := extractIdFromPayload_spec hids
      rw [be16_drop] at hpid hpseq
      exact ⟨ids.2, (Except.ok.inj h).symm, .inr ⟨hpid, hpseq⟩⟩

/-- A quoted Echo Request has our identifier and the `ProbeId`. -/
theorem quotedEcho_spec
    (h : quotedEcho (echoType ipv6) body our_identifier = .ok (probe_id, src_port)) :
    Marked ipv6 our_identifier body probe_id .Icmp := by
  unfold quotedEcho at h
  split_ifs at h with hlen
  rw [bind_eq_ok] at h
  obtain ⟨first, hfirst, h⟩ := h
  split_ifs at h with htype
  rw [not_not] at htype
  rw [bind_eq_ok] at h
  obtain ⟨id, hid, h⟩ := h
  obtain ⟨rfl, -⟩ := Prod.mk.inj (Except.ok.inj h)
  exact ⟨htype ▸ hfirst, echoProbeId_spec hid⟩

/-- The payload of a UDP datagram has the magic number. -/
theorem extractProbeIdFromUdpPayload_spec {payload : List UInt8}
    (h : extractProbeIdFromUdpPayload payload = .ok probe_id) :
    byte payload 2 = .ok 0x54 ∧ byte payload 3 = .ok 0x54 ∧ byte payload 4 = .ok 0x4C ∧
      ∃ sequence, probe_id = ProbeId.fromSequence sequence ∧ be16 payload 0 = .ok sequence := by
  unfold extractProbeIdFromUdpPayload at h
  split_ifs at h with hshort
  rw [bind_eq_ok] at h
  obtain ⟨m0, hm0, h⟩ := h
  rw [bind_eq_ok] at h
  obtain ⟨m1, hm1, h⟩ := h
  rw [bind_eq_ok] at h
  obtain ⟨m2, hm2, h⟩ := h
  split_ifs at h with hmagic
  -- What is not rejected has the three bytes of the magic number.
  simp only [not_or, not_not] at hmagic
  obtain ⟨rfl, rfl, rfl⟩ := hmagic
  rw [bind_eq_ok] at h
  obtain ⟨sequence, hseq, h⟩ := h
  exact ⟨hm0, hm1, hm2, sequence, (Except.ok.inj h).symm, hseq⟩

/-- A quoted UDP datagram has the mark of our payload and the `ProbeId`. -/
theorem quotedUdp_spec (h : quotedUdp body = .ok (probe_id, src_port)) :
    Marked ipv6 our_identifier body probe_id .Udp := by
  unfold quotedUdp at h
  split_ifs at h with hlen
  rw [bind_eq_ok] at h
  obtain ⟨port, -, h⟩ := h
  rw [dropFrom_ok (by omega), ok_bind, bind_eq_ok] at h
  obtain ⟨id, hid, h⟩ := h
  obtain ⟨rfl, -⟩ := Prod.mk.inj (Except.ok.inj h)
  have hspec := extractProbeIdFromUdpPayload_spec hid
  simp only [byte_drop, be16_drop] at hspec
  exact hspec

/-- A quoted TCP segment has the `ProbeId` in its sequence number. -/
theorem quotedTcp_spec (h : quotedTcp body = .ok (probe_id, src_port)) :
    Marked ipv6 our_identifier body probe_id .Tcp := by
  unfold quotedTcp extractProbeIdFromTcp at h
  split_ifs at h with hlen
  rw [bind_eq_ok] at h
  obtain ⟨port, -, h⟩ := h
  rw [bind_eq_ok] at h
  obtain ⟨id, hid, h⟩ := h
  obtain ⟨rfl, -⟩ := Prod.mk.inj (Except.ok.inj h)
  rw [bind_eq_ok] at hid
  obtain ⟨seq, hseq, hid⟩ := hid
  exact ⟨_, (Except.ok.inj hid).symm, be16_of_be32 hseq⟩

/-- What is accepted of a quoted packet has the mark of its own protocol. -/
theorem marked_of_quoted {ip : IpHeader} {protocol : UInt8}
    (h : ip.quoted protocol body our_identifier = .ok (probe_id, src_port)) :
    ∃ kind : ProbeProtocol, protocol = kind.number ip.isIpv6 ∧
      Marked ip.isIpv6 our_identifier body probe_id kind := by
  obtain ⟨kind, rfl⟩ := IpHeader.exists_number_of_quoted h
  refine ⟨kind, rfl, ?_⟩
  rw [ip.quoted_number] at h
  cases kind with
  | Icmp => exact quotedEcho_spec h
  | Udp => exact quotedUdp_spec h
  | Tcp => exact quotedTcp_spec h

end

namespace Tracer

/-- The receive loop on the bytes of one packet: the parse, and the match of what it accepts. -/
def deliver (env : Env) (s : Tracer) (ipv6 : Bool) (data : List UInt8) (responder : IpAddr)
    (our_identifier : UInt16) (is_dgram : Bool) (response_ttl : Option UInt8)
    (targets : List IpAddr) : Option Tracer :=
  match parseIcmpResponse data responder our_identifier is_dgram with
  | .ok parsed => step env s (.receive ipv6 parsed response_ttl targets)
  | .error _ => some s

/-- What the receiver takes from the pending map has the `ProbeId` of the reply. -/
theorem receive_spec {env : Env} {s s' : Tracer} {b : Bool} {parsed : ParsedResponse}
    {response_ttl : Option UInt8} {targets : List IpAddr}
    (h : step env s (.receive b parsed response_ttl targets) = some s') :
    s'.pending = s.pending ∧ (s'.receivers b).batch = (s.receivers b).batch ∧
        s'.sessions = s.sessions ∨
      ∃ key probe, s.pending.lookup key = some probe ∧ key.probe_id = parsed.probe_id ∧
        s'.pending = s.pending.erase key ∧
        (s'.receivers b).batch =
          (s.receivers b).batch ++ [batchResponse parsed response_ttl probe s.now] := by
  -- A reply without a match is kept for a late reply event, and leaves the pending map alone.
  simp only [step] at h
  split_ifs at h with henabled
  cases hmatch : matchReply (env.receiver b) s.pending targets parsed with
  | none =>
    rw [hmatch] at h
    obtain rfl := Option.some.inj h
    left
    refine ⟨rfl, ?_, rfl⟩
    rw [receivers_setReceiver, if_pos rfl]
  | some key =>
    rw [hmatch] at h
    obtain ⟨probe, hprobe, rfl⟩ := Option.map_eq_some_iff.mp h
    right
    refine ⟨key, probe, hprobe, (matchReply_spec hmatch).2, rfl, ?_⟩
    rw [receivers_setReceiver, if_pos rfl]

/-- An error that quotes a packet of another protocol than that of the run leaves the state alone, unless
the packet has the mark of its own protocol. With the mark it is matched as one of ours: then it either
takes nothing, or one pending probe with the `ProbeId` that the mark gives. -/
theorem cross_protocol_isolation {env : Env} {s s' : Tracer} {ip : IpHeader} {protocol : UInt8}
    (htransport : ip.BeforeTransport protocol)
    (hforeign : protocol ≠ (env.protocol ip.isIpv6).number ip.isIpv6) {responder : IpAddr}
    (hfamily : responder.isIpv6 = ip.isIpv6) (outer : Ipv4Header) (icmp : ErrorHeader)
    (body : List UInt8) (our_identifier : UInt16) (is_dgram : Bool) (response_ttl : Option UInt8)
    (targets : List IpAddr)
    (h : s.deliver env ip.isIpv6
      (delivered outer is_dgram ip.isIpv6 icmp (ip.bytes protocol ++ body)) responder our_identifier
      is_dgram response_ttl targets = some s') :
    s' = s ∨
      ∃ kind probe_id, kind ≠ env.protocol ip.isIpv6 ∧ protocol = kind.number ip.isIpv6 ∧
        Marked ip.isIpv6 our_identifier body probe_id kind ∧
        (s'.pending = s.pending ∧
            (s'.receivers ip.isIpv6).batch = (s.receivers ip.isIpv6).batch ∧
            s'.sessions = s.sessions ∨
          ∃ key probe resp, s.pending.lookup key = some probe ∧ key.probe_id = probe_id ∧
            s'.pending = s.pending.erase key ∧
            (s'.receivers ip.isIpv6).batch = (s.receivers ip.isIpv6).batch ++ [resp]) := by
  obtain ⟨exts, hparse⟩ := parseIcmpResponse_error outer is_dgram icmp ip htransport body hfamily
    our_identifier
  unfold deliver at h
  rw [hparse] at h
  obtain hreject | ⟨⟨probe_id, src_port⟩, hquoted⟩ :=
    parseQuoted_safe our_identifier (icmpProtocol ip.isIpv6) (echoType ip.isIpv6) protocol body
  · -- The packet has no mark, and the receive loop drops the message.
    have hreject : ip.quoted protocol body our_identifier = .error .reject := hreject
    rw [hreject] at h
    exact .inl (Option.some.inj h).symm
  · have hquoted : ip.quoted protocol body our_identifier = .ok (probe_id, src_port) := hquoted
    rw [hquoted] at h
    obtain ⟨kind, hkind, hmarked⟩ := marked_of_quoted hquoted
    refine .inr ⟨kind, probe_id, ?_, hkind, hmarked, ?_⟩
    · rintro rfl
      exact hforeign hkind
    · -- From here on nothing distinguishes the message from one about our own probe.
      obtain hnone | ⟨key, probe, hprobe, hid, hpending, hbatch⟩ := receive_spec h
      · exact .inl hnone
      · exact .inr ⟨key, probe, _, hprobe, hid, hpending, hbatch⟩

/-- The first probe of an ICMP run. -/
def firstProbe : List Action :=
  [.tick sampleTarget, .beginRound sampleTarget, .register sampleTarget, .sendOk sampleTarget]

/-- The IP header of another packet of the host to the same target. -/
def foreignHeader : Ipv4Header :=
  .plain 0 40 0 0 1 0 ⟨198, 51, 100, 7⟩ ⟨192, 0, 2, 1⟩

/-- The first bytes of a TCP segment to port 80, whose sequence number begins with 1 and 0. -/
def foreignSegment : List UInt8 := [0xC3, 0x50, 0, 80, 1, 0, 0, 0]

/-- The first bytes of a UDP datagram to port 53. -/
def foreignDatagram : List UInt8 := [0xC3, 0x50, 0, 53, 0, 20, 0, 0, 1, 0, 1, 0, 0, 1]

/-- A raw socket delivers Time Exceeded of a router, with a quoted packet. -/
def deliverForeign (s : Tracer) (protocol : UInt8) (body : List UInt8) : Option Tracer :=
  s.deliver (.icmp (some 1) 1 false) false
    (delivered foreignHeader false false ⟨.TimeExceeded 0, 0, 0⟩
      ((IpHeader.v4 foreignHeader).bytes protocol ++ body))
    (.V4 ⟨203, 0, 113, 1⟩) 4660 false none [sampleTarget]

/-- A UDP datagram without the magic number changes nothing in an ICMP run. -/
theorem cross_protocol_isolation_unmarked :
    ∃ s s', run (step (.icmp (some 1) 1 false)) (init (.icmp (some 1) 1 false) [sampleTarget] 0)
        firstProbe = some s ∧
      s.deliverForeign ipprotoUdp foreignDatagram = some s' ∧ s' = s := by
  obtain ⟨s, hs, hdelivered⟩ : ∃ s, run (step (.icmp (some 1) 1 false))
      (init (.icmp (some 1) 1 false) [sampleTarget] 0) firstProbe = some s ∧
      (s.deliverForeign ipprotoUdp foreignDatagram).isSome :=
    exists_run _ (by decide)
  obtain ⟨s', hs'⟩ := Option.isSome_iff_exists.mp hdelivered
  refine ⟨s, s', hs, hs', ?_⟩
  obtain heq | ⟨kind, probe_id, -, hkind, hmarked, -⟩ :=
    cross_protocol_isolation (nofun : (IpHeader.v4 foreignHeader).BeforeTransport ipprotoUdp)
      (by decide) rfl _ _ _ _ _ _ _ hs'
  · exact heq
  · -- The datagram has no mark.
    obtain rfl : kind = .Udp := by
      cases kind with
      | Udp => rfl
      | Icmp => cases hkind
      | Tcp => cases hkind
    cases hmarked.1

/-- A TCP segment to the same target takes the pending ICMP probe, whose entry becomes a reply. -/
theorem cross_protocol_isolation_fails_tcp :
    ∃ s s', run (step (.icmp (some 1) 1 false)) (init (.icmp (some 1) 1 false) [sampleTarget] 0)
        firstProbe = some s ∧
      ipprotoTcp ≠ ((Env.icmp (some 1) 1 false).protocol false).number false ∧
      s.deliverForeign ipprotoTcp foreignSegment = some s' ∧
      ⟨⟨1, 0⟩, 0, sampleTarget, false⟩ ∈ s.pending ∧
      ⟨⟨1, 0⟩, 0, sampleTarget, false⟩ ∉ s'.pending ∧
      (s'.receivers false).batch.map (fun resp => (resp.target, resp.responder)) =
        [(sampleTarget, .V4 ⟨203, 0, 113, 1⟩)] := by
  obtain ⟨s, hs, hany⟩ := exists_run (fun s => (s.deliverForeign ipprotoTcp foreignSegment).any
    fun s' => decide (⟨⟨1, 0⟩, 0, sampleTarget, false⟩ ∈ s.pending ∧
      ⟨⟨1, 0⟩, 0, sampleTarget, false⟩ ∉ s'.pending ∧
      (s'.receivers false).batch.map (fun resp => (resp.target, resp.responder)) =
        [(sampleTarget, .V4 ⟨203, 0, 113, 1⟩)]))
    (by decide : (run (step (.icmp (some 1) 1 false))
      (init (.icmp (some 1) 1 false) [sampleTarget] 0) firstProbe).any _)
  cases hs' : s.deliverForeign ipprotoTcp foreignSegment with
  | none =>
    rw [hs'] at hany
    cases hany
  | some s' =>
    rw [hs'] at hany
    exact ⟨s, s', hs, by decide, hs', of_decide_eq_true hany⟩

end Tracer

end Ttl
