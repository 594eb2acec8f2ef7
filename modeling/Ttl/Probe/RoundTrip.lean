import Ttl.Probe.Quote

/-!
# The identity of a probe survives its quotation

A probe goes out with its `ProbeId` in the sequence number of an Echo Request, in the payload of a UDP
datagram, or in the sequence number of a TCP segment. A router on the path may have rewritten the TTL,
the traffic class and the header checksum, and may have put IPv6 extension headers before the transport
header. It quotes the packet in an ICMP error, cut somewhere and followed by other bytes.
`probe_identity_round_trip` says that the parser reads the `ProbeId`, the destination and the source port
of the probe from any such message.

Where the program leaves a header to the kernel, its fields are arbitrary.
-/

namespace Ttl

open Bytes

/-! ## Probes -/

/-- What the engine puts into a probe. -/
structure Probe where
  protocol : ProbeProtocol
  probe_id : ProbeId
  /-- The ICMP identifier. -/
  identifier : UInt16
  src_port : UInt16
  dst_port : UInt16
  payload_size : ℕ
  pmtud : Bool
  timestamp : UInt32
  /-- The UDP checksum that the kernel computes, when it builds the UDP header. -/
  kernel_checksum : Option UInt16

/-- How an IPv4 packet leaves. The length and the identification are the builder's or the kernel's. -/
structure Ipv4Send where
  /-- The byte order of the platform's `IP_HDRINCL`. -/
  host_order : Bool
  src : Ipv4Addr
  dst : Ipv4Addr
  ttl : UInt8
  tos : UInt8
  total_len : UInt16
  identification : UInt16
  dont_fragment : Bool

/-- What is rewritten in an IPv4 header on the path. -/
structure Rewrite where
  tos : UInt8
  ttl : UInt8
  checksum : UInt16

/-- How a packet reaches the router that quotes it. The headers of an IPv6 packet are the kernel's and
the path's. -/
inductive Carrier where
  | v4 (send : Ipv4Send) (rewrite : Rewrite)
  | v6 (header : Ipv6Header) (chain : List ExtHeader)

namespace Probe

/-- The transport part of an IPv4 probe. -/
def transportV4 (pnet : Pnet) (p : Probe) (src dst : Ipv4Addr) : List UInt8 :=
  match p.protocol with
  | .Icmp =>
    buildEchoRequest pnet p.identifier p.probe_id.toSequence p.payload_size false none p.pmtud p.timestamp
  | .Udp =>
    let payload := buildUdpPayloadSized p.probe_id p.payload_size
    match p.kernel_checksum with
    | some checksum => udpDatagram p.src_port p.dst_port checksum payload
    | none => buildUdpDatagram src dst p.src_port p.dst_port payload
  | .Tcp => buildTcpSynSized p.probe_id p.src_port p.dst_port (.V4 src) (.V4 dst) p.payload_size

/-- The transport part of an IPv6 probe, whose UDP header the kernel builds. -/
def transportV6 (pnet : Pnet) (p : Probe) (src dst : Ipv6Addr) : List UInt8 :=
  match p.protocol with
  | .Icmp =>
    buildEchoRequest pnet p.identifier p.probe_id.toSequence p.payload_size true (some (src, dst)) p.pmtud
      p.timestamp
  | .Udp =>
    udpDatagram p.src_port p.dst_port (p.kernel_checksum.getD 0)
      (buildUdpPayloadSized p.probe_id p.payload_size)
  | .Tcp => buildTcpSynSized p.probe_id p.src_port p.dst_port (.V6 src) (.V6 dst) p.payload_size

/-- The transport bytes that a quote must keep. -/
def minTransport (p : Probe) : ℕ :=
  match p.protocol with
  | .Udp => 14
  | _ => 8

/-- The source port that identifies the flow, none for ICMP. -/
def flowPort (p : Probe) : Option UInt16 :=
  match p.protocol with
  | .Icmp => none
  | _ => some p.src_port

end Probe

/-- The IPv4 packet of a probe, with the header of `build_ipv4_header`. -/
def Ipv4Send.packet (send : Ipv4Send) (protocol : UInt8) (transport : List UInt8) : List UInt8 :=
  buildIpv4Header send.host_order send.src send.dst protocol send.ttl send.tos send.total_len
    send.identification send.dont_fragment ++ transport

/-- The bytes of a packet after the path rewrote its header. -/
def Rewrite.apply (r : Rewrite) (packet : List UInt8) : List UInt8 :=
  (((packet.set 1 r.tos).set 8 r.ttl).set 10 (r.checksum >>> 8).toUInt8).set 11 r.checksum.toUInt8

namespace Carrier

/-- The address family. -/
def isIpv6 : Carrier → Bool
  | v4 _ _ => false
  | v6 _ _ => true

/-- The packet as the router has it. -/
def packet (pnet : Pnet) (c : Carrier) (p : Probe) : List UInt8 :=
  match c with
  | v4 send rewrite =>
    rewrite.apply (send.packet (p.protocol.number false) (p.transportV4 pnet send.src send.dst))
  | v6 header chain =>
    (IpHeader.v6 header chain).bytes (p.protocol.number true) ++ p.transportV6 pnet header.src header.dst

/-- The length of its headers before the transport part. -/
def headerLength : Carrier → ℕ
  | v4 _ _ => 20
  | v6 _ chain => 40 + chainLength chain

/-- The destination. -/
def dst : Carrier → IpAddr
  | v4 send _ => .V4 send.dst
  | v6 header _ => .V6 header.dst

/-- The TTL or hop limit at the router. -/
def ttl : Carrier → UInt8
  | v4 _ rewrite => rewrite.ttl
  | v6 header _ => header.hop_limit

end Carrier

/-! ## Layouts

Up to a checksum, the transport part of a probe is the same in every family and on every platform. -/

/-- The transport part of a probe with a given checksum. -/
def Probe.layout (p : Probe) (ipv6 : Bool) (checksum : UInt16) : List UInt8 :=
  match p.protocol with
  | .Icmp =>
    echoRequest (echoType ipv6) checksum p.identifier p.probe_id.toSequence
      (echoPayload p.identifier p.probe_id.toSequence p.payload_size p.pmtud p.timestamp)
  | .Udp => udpDatagram p.src_port p.dst_port checksum (buildUdpPayloadSized p.probe_id p.payload_size)
  | .Tcp => tcpSyn p.probe_id p.src_port p.dst_port checksum p.payload_size

/-- An IPv4 probe is a layout with some checksum. -/
theorem Probe.exists_layoutV4 {pnet : Pnet} (hpnet : pnet.WritesEcho) (p : Probe) (src dst : Ipv4Addr) :
    ∃ checksum, p.transportV4 pnet src dst = p.layout false checksum := by
  unfold transportV4 layout
  cases p.protocol with
  | Icmp => exact hpnet.exists_buildEchoRequest _ _ _ _ _ _ _
  | Udp =>
    cases p.kernel_checksum with
    | some checksum => exact ⟨checksum, rfl⟩
    | none => exact ⟨_, rfl⟩
  | Tcp => exact ⟨_, rfl⟩

/-- An IPv6 probe is a layout with some checksum. -/
theorem Probe.exists_layoutV6 {pnet : Pnet} (hpnet : pnet.WritesEcho) (p : Probe) (src dst : Ipv6Addr) :
    ∃ checksum, p.transportV6 pnet src dst = p.layout true checksum := by
  unfold transportV6 layout
  cases p.protocol with
  | Icmp => exact hpnet.exists_buildEchoRequest _ _ _ _ _ _ _
  | Udp => exact ⟨_, rfl⟩
  | Tcp => exact ⟨_, rfl⟩

/-- The minimum is not more than there is. -/
theorem Probe.minTransport_le (p : Probe) (ipv6 : Bool) (checksum : UInt16) :
    p.minTransport ≤ (p.layout ipv6 checksum).length := by
  unfold minTransport layout
  cases p.protocol with
  | Icmp =>
    simp only [echoRequest, be16Bytes, List.length_append, List.length_cons, List.length_nil]
    omega
  | Udp =>
    simp only [udpDatagram, buildUdpPayloadSized, be16Bytes, List.length_append, List.length_cons,
      List.length_nil]
    omega
  | Tcp =>
    simp only [tcpSyn, be16Bytes, be32Bytes, List.length_append, List.length_cons, List.length_nil]
    omega

/-- The value that a header field has on the wire. -/
def lenOff (value : UInt16) (host_order : Bool) : UInt16 :=
  if host_order then fromBe16 value.toUInt8 (value >>> 8).toUInt8 else value

/-- The bytes of a field are those of its value on the wire. -/
theorem encodeLenOff_eq (value : UInt16) (host_order : Bool) :
    encodeLenOff value host_order = be16Bytes (lenOff value host_order) := by
  cases host_order with
  | false => rfl
  | true => exact (be16Bytes_fromBe16 value.toUInt8 (value >>> 8).toUInt8).symm

/-- The IPv4 header that the router quotes. -/
def Ipv4Send.header (send : Ipv4Send) (rewrite : Rewrite) : Ipv4Header :=
  .plain rewrite.tos (lenOff send.total_len send.host_order) send.identification
    (lenOff (if send.dont_fragment then 0x4000 else 0) send.host_order) rewrite.ttl rewrite.checksum
    send.src send.dst

/-- The fields that the path rewrites are the only ones that differ from those that were sent. -/
theorem Rewrite.apply_packet (rewrite : Rewrite) (send : Ipv4Send) (protocol : UInt8)
    (transport : List UInt8) :
    rewrite.apply (send.packet protocol transport) =
      (send.header rewrite).bytes protocol ++ transport := by
  unfold Ipv4Send.packet buildIpv4Header
  rw [encodeLenOff_eq, encodeLenOff_eq]
  rfl

/-- A packet of the program's own IPv4 builder is one of those. -/
theorem packet_of_buildIpv4Packet {host_order dont_fragment : Bool} {src dst : Ipv4Addr}
    {protocol ttl tos : UInt8} {transport packet : List UInt8}
    (h : buildIpv4Packet host_order src dst protocol ttl tos dont_fragment transport = some packet) :
    packet = Ipv4Send.packet
      ⟨host_order, src, dst, ttl, tos, UInt16.ofNat (20 + transport.length), 0, dont_fragment⟩
      protocol transport := by
  unfold buildIpv4Packet at h
  split_ifs at h
  exact (Option.some.inj h).symm

/-- The headers that the router quotes. -/
def Carrier.header : Carrier → IpHeader
  | .v4 send rewrite => .v4 (send.header rewrite)
  | .v6 header chain => .v6 header chain

/-- The headers at the router are of the carrier's family. -/
@[simp]
theorem Carrier.isIpv6_header (c : Carrier) : c.header.isIpv6 = c.isIpv6 := by cases c <;> rfl

/-- The headers at the router have the carrier's TTL. -/
@[simp]
theorem Carrier.ttl_header (c : Carrier) : c.header.ttl = c.ttl := by cases c <;> rfl

/-- The headers at the router have the carrier's destination. -/
@[simp]
theorem Carrier.dst_header (c : Carrier) : c.header.dst = c.dst := by cases c <;> rfl

/-- The headers at the router have the carrier's length. -/
theorem Carrier.length_header (c : Carrier) (protocol : UInt8) :
    (c.header.bytes protocol).length = c.headerLength := by
  cases c with
  | v4 send rewrite => rfl
  | v6 header chain =>
    change (header.bytes _ ++ chainBytes chain protocol).length = 40 + chainLength chain
    rw [List.length_append, header.length_bytes, length_chainBytes]

/-- The packet at the router is its headers and a layout. -/
theorem Carrier.exists_packet {pnet : Pnet} (hpnet : pnet.WritesEcho) (c : Carrier) (p : Probe) :
    ∃ checksum, c.packet pnet p =
      c.header.bytes (p.protocol.number c.isIpv6) ++ p.layout c.isIpv6 checksum := by
  cases c with
  | v4 send rewrite =>
    obtain ⟨checksum, hchecksum⟩ := p.exists_layoutV4 hpnet send.src send.dst
    refine ⟨checksum, ?_⟩
    rw [packet, rewrite.apply_packet, hchecksum]
    rfl
  | v6 header chain =>
    obtain ⟨checksum, hchecksum⟩ := p.exists_layoutV6 hpnet header.src header.dst
    refine ⟨checksum, ?_⟩
    rw [packet, hchecksum]
    rfl

/-! ## Transport headers that are cut -/

section

variable {body : List UInt8}

/-- A quoted Echo Request with our identifier. -/
theorem quotedEcho_ok {echo_type : UInt8} {checksum identifier sequence : UInt16}
    {payload : List UInt8}
    (h : StartsWith body 8 (echoRequest echo_type checksum identifier sequence payload)) :
    quotedEcho echo_type body identifier = .ok (ProbeId.fromSequence sequence, none) := by
  have hlen := h.le_length
  have htype : byte body 0 = .ok echo_type := h.byte_eq (by omega)
  have hid : be16 body 4 = .ok identifier := by
    rw [h.be16_eq (by omega)]
    exact be16_of_bytes rfl rfl
  have hseq : be16 body 6 = .ok sequence := by
    rw [h.be16_eq (by omega)]
    exact be16_of_bytes rfl rfl
  unfold quotedEcho echoProbeId
  rw [if_neg (by omega), htype, ok_bind, if_neg (not_not.mpr rfl), hid, ok_bind, hseq, ok_bind,
    if_pos rfl]
  rfl

/-- A quoted TCP probe. -/
theorem quotedTcp_ok {probe_id : ProbeId} {src_port dst_port checksum : UInt16} {payload_size : ℕ}
    (h : StartsWith body 8 (tcpSyn probe_id src_port dst_port checksum payload_size)) :
    quotedTcp body = .ok (probe_id, some src_port) := by
  have hlen := h.le_length
  have hport : be16 body 0 = .ok src_port := by
    rw [h.be16_eq (by omega)]
    exact be16_of_bytes rfl rfl
  have hseq : be32 body 4 = .ok (probe_id.toSequence.toUInt32 <<< 16) := by
    rw [h.be32_eq (by omega)]
    exact be32_of_halves (be16_of_bytes rfl rfl) (be16_of_bytes rfl rfl)
  unfold quotedTcp extractProbeIdFromTcp
  rw [if_neg (by omega), hport, ok_bind, if_neg (by omega), hseq, ok_bind, upper_half,
    ProbeId.fromSequence_toSequence]
  rfl

/-- The payload of a UDP probe has its six bytes of identification. -/
theorem extractProbeIdFromUdpPayload_ok {probe_id : ProbeId} {size : ℕ}
    (h : StartsWith body 6 (buildUdpPayloadSized probe_id size)) :
    extractProbeIdFromUdpPayload body = .ok probe_id := by
  have hlen := h.le_length
  have hm0 : byte body 2 = .ok 0x54 := h.byte_eq (by omega)
  have hm1 : byte body 3 = .ok 0x54 := h.byte_eq (by omega)
  have hm2 : byte body 4 = .ok 0x4C := h.byte_eq (by omega)
  have hseq : be16 body 0 = .ok probe_id.toSequence := by
    rw [h.be16_eq (by omega)]
    exact be16_of_bytes rfl rfl
  unfold extractProbeIdFromUdpPayload
  rw [if_neg (by omega), hm0, ok_bind, hm1, ok_bind, hm2, ok_bind, if_neg (by decide), hseq, ok_bind,
    ProbeId.fromSequence_toSequence]
  rfl

/-- A quoted UDP probe. -/
theorem quotedUdp_ok {probe_id : ProbeId} {src_port dst_port checksum : UInt16} {size : ℕ}
    (h : StartsWith body 14
      (udpDatagram src_port dst_port checksum (buildUdpPayloadSized probe_id size))) :
    quotedUdp body = .ok (probe_id, some src_port) := by
  have hlen := h.le_length
  have hport : be16 body 0 = .ok src_port := by
    rw [h.be16_eq (by omega)]
    exact be16_of_bytes rfl rfl
  -- Behind the UDP header, six of the fourteen bytes are left.
  have hpayload : StartsWith (body.drop 8) 6 (buildUdpPayloadSized probe_id size) :=
    h.drop (show 8 ≤ 14 by omega)
  unfold quotedUdp
  rw [if_neg (by omega), hport, ok_bind, dropFrom_ok (by omega), ok_bind,
    extractProbeIdFromUdpPayload_ok hpayload]
  rfl

end

/-- The transport protocols are none of the numbers that the walk over extension headers knows. -/
theorem ProbeProtocol.number_notMem (p : ProbeProtocol) (ipv6 : Bool) :
    p.number ipv6 ∉ ipv6Skipped ∧ p.number ipv6 ∉ ipv6Stopped := by
  cases p <;> cases ipv6 <;> decide

/-- A transport part that is cut still identifies the probe. -/
theorem Probe.quoted_ok (p : Probe) (ip : IpHeader) {checksum : UInt16} {body : List UInt8}
    (h : StartsWith body p.minTransport (p.layout ip.isIpv6 checksum)) :
    ip.quoted (p.protocol.number ip.isIpv6) body p.identifier = .ok (p.probe_id, p.flowPort) := by
  rw [ip.quoted_number]
  unfold flowPort
  unfold minTransport layout at h
  cases hp : p.protocol with
  | Icmp =>
    rw [hp] at h
    dsimp only at h ⊢
    rw [quotedEcho_ok h, ProbeId.fromSequence_toSequence]
  | Udp =>
    rw [hp] at h
    exact quotedUdp_ok h
  | Tcp =>
    rw [hp] at h
    exact quotedTcp_ok h

/-- The parser gives back the identity of a probe from every error that quotes it: any kind of probe and
of socket, any headers on the way, any cut that leaves the minimum and anything behind it. -/
theorem probe_identity_round_trip {pnet : Pnet} (hpnet : pnet.WritesEcho) (probe : Probe)
    (carrier : Carrier) (outer : Ipv4Header) (is_dgram : Bool) (icmp : ErrorHeader) {cut : ℕ}
    (hcut : carrier.headerLength + probe.minTransport ≤ cut) (trailing : List UInt8)
    {responder : IpAddr} (hfamily : responder.isIpv6 = carrier.isIpv6) :
    ∃ response,
      parseIcmpResponse
          (delivered outer is_dgram carrier.isIpv6 icmp
            ((carrier.packet pnet probe).take cut ++ trailing))
          responder probe.identifier is_dgram = .ok response ∧
        response.probe_id = probe.probe_id ∧
        response.original_dest = some carrier.dst ∧
        response.src_port = probe.flowPort ∧
        response.quoted_ttl = some carrier.ttl ∧
        response.mtu = icmp.mtu carrier.isIpv6 ∧
        response.response_type = icmp.error.responseType carrier.isIpv6 ∧
        response.responder = responder ∧
        response.is_pmtud = false := by
  obtain ⟨checksum, hpacket⟩ := carrier.exists_packet hpnet probe
  have hlen := carrier.length_header (probe.protocol.number carrier.isIpv6)
  -- The cut goes through the transport part, of which the minimum is left.
  have hquote : (carrier.packet pnet probe).take cut ++ trailing =
      carrier.header.bytes (probe.protocol.number carrier.isIpv6) ++
        ((probe.layout carrier.isIpv6 checksum).take (cut - carrier.headerLength) ++ trailing) := by
    rw [hpacket, List.take_append, List.take_of_length_le (by omega), hlen, List.append_assoc]
  have hstarts : StartsWith
      ((probe.layout carrier.isIpv6 checksum).take (cut - carrier.headerLength) ++ trailing)
      probe.minTransport (probe.layout carrier.isIpv6 checksum) :=
    StartsWith.of_take trailing (by omega) (probe.minTransport_le _ _)
  obtain ⟨exts, hparse⟩ := parseIcmpResponse_error outer is_dgram icmp carrier.header
    (fun _ => probe.protocol.number_notMem carrier.isIpv6)
    ((probe.layout carrier.isIpv6 checksum).take (cut - carrier.headerLength) ++ trailing)
    (by rw [hfamily, carrier.isIpv6_header]) probe.identifier
  -- What is left of the transport part identifies the probe.
  have hquoted := probe.quoted_ok carrier.header (by rwa [carrier.isIpv6_header])
  rw [carrier.isIpv6_header] at hparse hquoted
  rw [hquoted, carrier.ttl_header, carrier.dst_header] at hparse
  rw [hquote, hparse]
  exact ⟨_, rfl, rfl, rfl, rfl, rfl, rfl, rfl, rfl, rfl⟩

/-- A probe of the eighth hop, by UDP over IPv6. -/
def sampleProbe : Probe := ⟨.Udp, ⟨8, 3⟩, 4660, 50001, 33434, 32, false, 0, some 7⟩

/-- It has got a Hop-by-Hop header on its way. -/
def sampleCarrier : Carrier :=
  .v6 ⟨0x60000000, 48, 1, ⟨0x2001, 0xdb8, 0, 0, 0, 0, 0, 1⟩, ⟨0x2001, 0xdb8, 0, 0, 0, 0, 0, 2⟩⟩
    [⟨0, 0, [1, 4, 0, 0, 0, 0], by decide, rfl⟩]

/-- An IPv4 header of a router. -/
def sampleOuter : Ipv4Header :=
  .plain 0 56 0 0 64 0 ⟨198, 51, 100, 1⟩ ⟨203, 0, 113, 1⟩

/-- The probe is cut right behind the six bytes that identify it, and eight bytes follow. -/
theorem probe_identity_round_trip_udp :
    ∃ response,
      parseIcmpResponse
          (delivered sampleOuter false true ⟨.TimeExceeded 0, 0, 0⟩
            ((sampleCarrier.packet samplePnet sampleProbe).take 62 ++ [0, 0, 0, 0, 0, 0, 0, 0]))
          (.V6 ⟨0xfe80, 0, 0, 0, 0, 0, 0, 1⟩) 4660 false = .ok response ∧
        response.probe_id = ⟨8, 3⟩ ∧
        response.src_port = some 50001 ∧
        response.mtu = none := by
  obtain ⟨response, hparse, hid, -, hport, -, hmtu, -⟩ :=
    probe_identity_round_trip samplePnet_writesEcho sampleProbe sampleCarrier sampleOuter false
      ⟨.TimeExceeded 0, 0, 0⟩ (by decide : _ ≤ 62) [0, 0, 0, 0, 0, 0, 0, 0]
      (rfl : (IpAddr.V6 ⟨0xfe80, 0, 0, 0, 0, 0, 0, 1⟩).isIpv6 = sampleCarrier.isIpv6)
  exact ⟨response, hparse, hid, hport, hmtu⟩

end Ttl
