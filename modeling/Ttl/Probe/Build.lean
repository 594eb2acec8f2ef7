import Ttl.Lib.Bytes
import Ttl.State.Types

/-!
# The probe builders

The packets of the three kinds of probes, byte by byte, as `src/probe/icmp.rs`, `src/probe/udp.rs`,
`src/probe/tcp.rs` and `src/probe/rawip.rs` build them. A builder that fills a buffer and writes the
checksum last is the layout of that buffer applied to the checksum, which is first computed with zero in
its place. Lengths and sums are natural numbers, reduced where the code casts them.

An Echo Request is written through the packets of `pnet`, which are a parameter: `Pnet.WritesEcho` says
where its setters write.
-/

namespace Ttl

open Bytes

/-- `octets` of an IPv6 address. -/
def Ipv6Addr.octets (addr : Ipv6Addr) : List UInt8 := addr.segments.flatMap be16Bytes

/-- `IPPROTO_ICMP`. -/
def ipprotoIcmp : UInt8 := 1

/-- `IPPROTO_TCP`. -/
def ipprotoTcp : UInt8 := 6

/-- `IPPROTO_UDP`. -/
def ipprotoUdp : UInt8 := 17

/-- `IPPROTO_ICMPV6`. -/
def ipprotoIcmpv6 : UInt8 := 58

/-! ## Checksums -/

/-- The sum of the 16-bit words, with an odd last byte as the high byte of a word. -/
def sumWords : List UInt8 → ℕ
  | hi :: lo :: rest => (fromBe16 hi lo).toNat + sumWords rest
  | [b] => b.toNat * 2^8
  | [] => 0

/-- Fold the carries of a `u32` sum into 16 bits. Two rounds are enough (`foldCarries_lt`). -/
def foldCarries (sum : ℕ) : ℕ :=
  let fold := fun n => n % 2^16 + n / 2^16
  fold (fold (sum % 2^32))

/-- After two rounds no carry is left, so that the loop of the code has ended. -/
theorem foldCarries_lt (sum : ℕ) : foldCarries sum < 2^16 := by
  unfold foldCarries
  have hlt : sum % 2^32 < 2^32 := Nat.mod_lt _ (Nat.two_pow_pos 32)
  dsimp only
  omega

/-- `!sum as u16`, of a folded sum. -/
def onesComplement (sum : ℕ) : UInt16 := ~~~ UInt16.ofNat (foldCarries sum)

/-- `internet_checksum`. -/
def internetChecksum (data : List UInt8) : UInt16 := onesComplement (sumWords data)

/-- `icmp_ipv6_checksum`, of a message with its checksum field zero. -/
def icmpIpv6Checksum (data : List UInt8) (src_addr dest_addr : Ipv6Addr) : UInt16 :=
  onesComplement (sumWords src_addr.octets + sumWords dest_addr.octets + data.length +
    ipprotoIcmpv6.toNat + sumWords data)

/-- `tcp_checksum`, of a segment with its checksum field zero. -/
def tcpChecksum (tcp_header : List UInt8) (src_ip dst_ip : IpAddr) : UInt16 :=
  match src_ip, dst_ip with
  | .V4 src, .V4 dst =>
    onesComplement (sumWords src.octets + sumWords dst.octets + ipprotoTcp.toNat +
      tcp_header.length + sumWords tcp_header)
  | .V6 src, .V6 dst =>
    onesComplement (sumWords src.octets + sumWords dst.octets + tcp_header.length +
      ipprotoTcp.toNat + sumWords tcp_header)
  | _, _ => 0

/-- `udp_checksum_v4`, of a datagram with its checksum field zero. -/
def udpChecksumV4 (src dst : Ipv4Addr) (udp : List UInt8) : UInt16 :=
  internetChecksum (src.octets ++ dst.octets ++ [0, ipprotoUdp] ++
    be16Bytes (UInt16.ofNat udp.length) ++ udp)

/-! ## ICMP Echo Requests -/

/-- The pattern that fills the rest of a payload: byte `i` is `i & 0xFF`. -/
def patternFill (length : ℕ) : List UInt8 := (List.range length).map UInt8.ofNat

/-- `ICMP_HEADER_SIZE`. -/
def icmpHeaderSize : ℕ := 8

/-- `MIN_PAYLOAD_SIZE`. -/
def minPayloadSize : ℕ := 8

/-- `PMTUD_MARKER`. -/
def pmtudMarker : UInt8 := 0x50

/-- The payload of an Echo Request: the identifier and the sequence again, the timestamp, and the pattern,
whose first byte is the marker of a path MTU probe. -/
def echoPayload (identifier sequence : UInt16) (payload_size : ℕ) (pmtud : Bool)
    (timestamp : UInt32) : List UInt8 :=
  let pattern := patternFill (max payload_size minPayloadSize - minPayloadSize)
  be16Bytes identifier ++ be16Bytes sequence ++ be32Bytes timestamp ++
    if pmtud then pattern.set 0 pmtudMarker else pattern

/-- What the builder uses of `pnet`: the setters of `MutableEchoRequestPacket`, from the buffer of the packet to
the buffer after it, and `checksum` of an `IcmpPacket`. -/
structure Pnet where
  set_icmp_type : List UInt8 → UInt8 → List UInt8
  set_icmp_code : List UInt8 → UInt8 → List UInt8
  set_checksum : List UInt8 → UInt16 → List UInt8
  set_identifier : List UInt8 → UInt16 → List UInt8
  set_sequence_number : List UInt8 → UInt16 → List UInt8
  /-- `payload_mut`, with what is done to the payload. -/
  payload_mut : List UInt8 → (List UInt8 → List UInt8) → List UInt8
  checksum : List UInt8 → UInt16

/-- Every setter writes its field of the header, in network order, and `payload_mut` is what follows the
header. Nothing is asked of `checksum`. -/
structure Pnet.WritesEcho (pnet : Pnet) : Prop where
  icmp_type : ∀ buffer icmp_type, icmpHeaderSize ≤ buffer.length →
    pnet.set_icmp_type buffer icmp_type = writeAt buffer 0 [icmp_type]
  icmp_code : ∀ buffer icmp_code, icmpHeaderSize ≤ buffer.length →
    pnet.set_icmp_code buffer icmp_code = writeAt buffer 1 [icmp_code]
  checksum : ∀ buffer checksum, icmpHeaderSize ≤ buffer.length →
    pnet.set_checksum buffer checksum = writeAt buffer 2 (be16Bytes checksum)
  identifier : ∀ buffer identifier, icmpHeaderSize ≤ buffer.length →
    pnet.set_identifier buffer identifier = writeAt buffer 4 (be16Bytes identifier)
  sequence_number : ∀ buffer sequence, icmpHeaderSize ≤ buffer.length →
    pnet.set_sequence_number buffer sequence = writeAt buffer 6 (be16Bytes sequence)
  payload : ∀ buffer fill, icmpHeaderSize ≤ buffer.length →
    (fill (buffer.drop icmpHeaderSize)).length = (buffer.drop icmpHeaderSize).length →
    pnet.payload_mut buffer fill = buffer.take icmpHeaderSize ++ fill (buffer.drop icmpHeaderSize)

/-- The buffer of `build_echo_request` before its checksum is set. -/
def echoBuffer (pnet : Pnet) (icmp_type : UInt8) (identifier sequence : UInt16) (payload_size : ℕ)
    (pmtud : Bool) (timestamp : UInt32) : List UInt8 :=
  let buffer := List.replicate (icmpHeaderSize + max payload_size minPayloadSize) 0
  let buffer := pnet.set_icmp_type buffer icmp_type
  let buffer := pnet.set_icmp_code buffer 0
  let buffer := pnet.set_identifier buffer identifier
  let buffer := pnet.set_sequence_number buffer sequence
  -- Every byte of the payload is written.
  pnet.payload_mut buffer fun _ => echoPayload identifier sequence payload_size pmtud timestamp

/-- `build_echo_request`, at the time `timestamp`. Without addresses, an ICMPv6 checksum stays zero. -/
def buildEchoRequest (pnet : Pnet) (identifier sequence : UInt16) (payload_size : ℕ) (ipv6 : Bool)
    (ipv6_addrs : Option (Ipv6Addr × Ipv6Addr)) (pmtud : Bool) (timestamp : UInt32) : List UInt8 :=
  let icmp_type : UInt8 := if ipv6 then 128 else 8
  let buffer := echoBuffer pnet icmp_type identifier sequence payload_size pmtud timestamp
  if ipv6 then
    match ipv6_addrs with
    | some (src, dest) => pnet.set_checksum buffer (icmpIpv6Checksum buffer src dest)
    | none => buffer
  else pnet.set_checksum buffer (pnet.checksum buffer)

/-- The layout of an Echo Request. -/
def echoRequest (icmp_type : UInt8) (checksum identifier sequence : UInt16) (payload : List UInt8) :
    List UInt8 :=
  [icmp_type, 0] ++ be16Bytes checksum ++ be16Bytes identifier ++ be16Bytes sequence ++ payload

/-- An Echo Request is its header and its payload. -/
theorem length_echoRequest (icmp_type : UInt8) (checksum identifier sequence : UInt16)
    (payload : List UInt8) :
    (echoRequest icmp_type checksum identifier sequence payload).length =
      icmpHeaderSize + payload.length := by
  unfold echoRequest
  rw [List.length_append]
  rfl

/-- The payload has the size that was asked for, and at least the smallest. -/
theorem length_echoPayload (identifier sequence : UInt16) (payload_size : ℕ) (pmtud : Bool)
    (timestamp : UInt32) :
    (echoPayload identifier sequence payload_size pmtud timestamp).length = max payload_size minPayloadSize := by
  have hpattern : (patternFill (max payload_size minPayloadSize - minPayloadSize)).length =
      max payload_size minPayloadSize - minPayloadSize := by
    rw [patternFill, List.length_map, List.length_range]
  have hle : 8 ≤ max payload_size minPayloadSize := le_max_right _ _
  unfold echoPayload
  dsimp only
  rw [List.length_append, apply_ite List.length, List.length_set, hpattern, ite_self]
  change 8 + (_ - 8) = _
  omega

section

variable {pnet : Pnet}

/-- The setters fill a buffer of zeros with the header. -/
theorem Pnet.WritesEcho.header (h : pnet.WritesEcho) (icmp_type : UInt8) (identifier sequence : UInt16)
    (n : ℕ) :
    pnet.set_sequence_number (pnet.set_identifier (pnet.set_icmp_code (pnet.set_icmp_type
        (List.replicate (icmpHeaderSize + n) 0) icmp_type) 0) identifier) sequence =
      echoRequest icmp_type 0 identifier sequence (List.replicate n 0) := by
  have hlen : ∀ checksum identifier sequence, icmpHeaderSize ≤
      (echoRequest icmp_type checksum identifier sequence (List.replicate n 0)).length := by
    intro checksum identifier sequence
    rw [length_echoRequest]
    exact Nat.le_add_right _ _
  have hzero : List.replicate (icmpHeaderSize + n) (0 : UInt8) =
      echoRequest 0 0 0 0 (List.replicate n 0) := by
    rw [Nat.add_comm]
    rfl
  have htype : pnet.set_icmp_type (List.replicate (icmpHeaderSize + n) 0) icmp_type =
      echoRequest icmp_type 0 0 0 (List.replicate n 0) := by
    rw [h.icmp_type _ _ (by rw [List.length_replicate]; exact Nat.le_add_right _ _), hzero]
    rfl
  have hcode : pnet.set_icmp_code (echoRequest icmp_type 0 0 0 (List.replicate n 0)) 0 =
      echoRequest icmp_type 0 0 0 (List.replicate n 0) := by
    rw [h.icmp_code _ _ (hlen 0 0 0)]
    rfl
  have hidentifier : pnet.set_identifier (echoRequest icmp_type 0 0 0 (List.replicate n 0)) identifier =
      echoRequest icmp_type 0 identifier 0 (List.replicate n 0) := by
    rw [h.identifier _ _ (hlen 0 0 0)]
    rfl
  rw [htype, hcode, hidentifier, h.sequence_number _ _ (hlen 0 identifier 0)]
  rfl

/-- The buffer is the layout with zero in the place of the checksum. -/
theorem Pnet.WritesEcho.echoBuffer_eq (h : pnet.WritesEcho) (icmp_type : UInt8)
    (identifier sequence : UInt16) (payload_size : ℕ) (pmtud : Bool) (timestamp : UInt32) :
    echoBuffer pnet icmp_type identifier sequence payload_size pmtud timestamp =
      echoRequest icmp_type 0 identifier sequence
        (echoPayload identifier sequence payload_size pmtud timestamp) := by
  have hheader := h.header icmp_type identifier sequence (max payload_size minPayloadSize)
  unfold echoBuffer
  dsimp only
  rw [hheader, h.payload]
  · rfl
  · rw [length_echoRequest]
    exact Nat.le_add_right _ _
  · rw [length_echoPayload, List.length_drop, length_echoRequest, List.length_replicate]
    exact (Nat.add_sub_cancel_left _ _).symm

/-- The checksum is written over the zero. -/
theorem Pnet.WritesEcho.set_checksum_eq (h : pnet.WritesEcho) (icmp_type : UInt8)
    (checksum identifier sequence : UInt16) (payload : List UInt8) :
    pnet.set_checksum (echoRequest icmp_type 0 identifier sequence payload) checksum =
      echoRequest icmp_type checksum identifier sequence payload := by
  rw [h.checksum _ _ (by rw [length_echoRequest]; exact Nat.le_add_right _ _)]
  rfl

/-- What is built is the layout with some checksum. -/
theorem Pnet.WritesEcho.exists_buildEchoRequest (h : pnet.WritesEcho) (identifier sequence : UInt16)
    (payload_size : ℕ) (ipv6 : Bool) (ipv6_addrs : Option (Ipv6Addr × Ipv6Addr)) (pmtud : Bool)
    (timestamp : UInt32) :
    ∃ checksum,
      buildEchoRequest pnet identifier sequence payload_size ipv6 ipv6_addrs pmtud timestamp =
        echoRequest (if ipv6 then 128 else 8) checksum identifier sequence
          (echoPayload identifier sequence payload_size pmtud timestamp) := by
  unfold buildEchoRequest
  dsimp only
  rw [h.echoBuffer_eq]
  cases ipv6 with
  | false => exact ⟨_, h.set_checksum_eq _ _ _ _ _⟩
  | true =>
    cases ipv6_addrs with
    | none => exact ⟨0, rfl⟩
    | some addrs => exact ⟨_, h.set_checksum_eq _ _ _ _ _⟩

end

/-- Packets over a list of bytes, with the checksum of the code's own routine. -/
def samplePnet : Pnet where
  set_icmp_type buffer icmp_type := writeAt buffer 0 [icmp_type]
  set_icmp_code buffer icmp_code := writeAt buffer 1 [icmp_code]
  set_checksum buffer checksum := writeAt buffer 2 (be16Bytes checksum)
  set_identifier buffer identifier := writeAt buffer 4 (be16Bytes identifier)
  set_sequence_number buffer sequence := writeAt buffer 6 (be16Bytes sequence)
  payload_mut buffer fill := buffer.take icmpHeaderSize ++ fill (buffer.drop icmpHeaderSize)
  checksum := internetChecksum

/-- These packets write where they should. -/
theorem samplePnet_writesEcho : samplePnet.WritesEcho where
  icmp_type _ _ _ := rfl
  icmp_code _ _ _ := rfl
  checksum _ _ _ := rfl
  identifier _ _ _ := rfl
  sequence_number _ _ _ := rfl
  payload _ _ _ _ := rfl

/-! ## UDP probes -/

/-- `MIN_UDP_PAYLOAD`. -/
def minUdpPayload : ℕ := 8

/-- `build_udp_payload_sized`. -/
def buildUdpPayloadSized (probe_id : ProbeId) (size : ℕ) : List UInt8 :=
  be16Bytes probe_id.toSequence ++ [0x54, 0x54, 0x4C, 0x00] ++ patternFill (max size minUdpPayload - 6)

/-- The layout of a UDP datagram. Its length is cast to 16 bits. -/
def udpDatagram (src_port dst_port checksum : UInt16) (payload : List UInt8) : List UInt8 :=
  be16Bytes src_port ++ be16Bytes dst_port ++ be16Bytes (UInt16.ofNat (8 + payload.length)) ++
    be16Bytes checksum ++ payload

/-- `build_udp_datagram`. -/
def buildUdpDatagram (src dst : Ipv4Addr) (src_port dst_port : UInt16) (payload : List UInt8) :
    List UInt8 :=
  let cksum := udpChecksumV4 src dst (udpDatagram src_port dst_port 0 payload)
  udpDatagram src_port dst_port (if cksum = 0 then 0xFFFF else cksum) payload

/-! ## TCP probes -/

/-- The layout of a TCP SYN segment with the `ProbeId` in the upper half of its sequence number. -/
def tcpSyn (probe_id : ProbeId) (src_port dst_port checksum : UInt16) (payload_size : ℕ) :
    List UInt8 :=
  be16Bytes src_port ++ be16Bytes dst_port ++ be32Bytes (probe_id.toSequence.toUInt32 <<< 16) ++
    be32Bytes 0 ++ [0x50, 0x02] ++ be16Bytes 65535 ++ be16Bytes checksum ++ be16Bytes 0 ++
    patternFill payload_size

/-- `build_tcp_syn_sized`. -/
def buildTcpSynSized (probe_id : ProbeId) (src_port dst_port : UInt16) (src_ip dst_ip : IpAddr)
    (payload_size : ℕ) : List UInt8 :=
  tcpSyn probe_id src_port dst_port
    (tcpChecksum (tcpSyn probe_id src_port dst_port 0 payload_size) src_ip dst_ip) payload_size

/-! ## IP headers -/

/-- `encode_len_off`, where host order is little endian. -/
def encodeLenOff (value : UInt16) (host_order : Bool) : List UInt8 :=
  if host_order then (be16Bytes value).reverse else be16Bytes value

/-- `build_ipv4_header`. The constant `HDRINCL_HOST_ORDER_LEN_OFF` of the platform is an argument. -/
def buildIpv4Header (host_order : Bool) (src dst : Ipv4Addr) (protocol ttl tos : UInt8)
    (total_len identification : UInt16) (dont_fragment : Bool) : List UInt8 :=
  [0x45, tos] ++ encodeLenOff total_len host_order ++ be16Bytes identification ++
    encodeLenOff (if dont_fragment then 0x4000 else 0) host_order ++ [ttl, protocol, 0, 0] ++
    src.octets ++ dst.octets

/-- `build_ipv4_packet`: no packet when it is too large. -/
def buildIpv4Packet (host_order : Bool) (src dst : Ipv4Addr) (protocol ttl tos : UInt8)
    (dont_fragment : Bool) (transport : List UInt8) : Option (List UInt8) :=
  if 65535 < 20 + transport.length then none
  else
    some (buildIpv4Header host_order src dst protocol ttl tos (UInt16.ofNat (20 + transport.length)) 0
      dont_fragment ++ transport)

end Ttl
