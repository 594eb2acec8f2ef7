import Ttl.Probe.Build
import Ttl.Probe.Extensions

/-!
# The correlation of replies

`parse_icmp_response` of `src/probe/correlate.rs`: from the bytes that a socket delivered to the probe
that they answer. The raw IPv4 parser drops the IP header and goes on as the parser of a datagram
socket does, and the two parsers of an IPv4 error payload are one text, so that they share a definition
here. `None` is a rejection. `parseIcmpResponse_safe` says that the parser has no other way to stop.
-/

namespace Ttl

open Bytes

/-! ## What the parsers read -/

/-- `validate_icmp_checksum`. -/
def validateIcmpChecksum (data : List UInt8) : Bool :=
  4 ≤ data.length ∧
    (foldCarries (sumWords data) = 0xFFFF ∨ foldCarries (sumWords data) = 0)

/-- `extract_id_from_payload`. -/
def extractIdFromPayload (payload : List UInt8) (our_identifier : UInt16) :
    Parse (Option (UInt16 × UInt16)) :=
  if payload.length < 4 then .ok none
  else do
    let payload_id ← be16 payload 0
    let payload_seq ← be16 payload 2
    return if payload_id = our_identifier then some (payload_id, payload_seq) else none

/-- `is_pmtud_payload`. -/
def isPmtudPayload (payload : List UInt8) : Bool := payload[8]? = some pmtudMarker

/-- `extract_probe_id_from_tcp`. -/
def extractProbeIdFromTcp (tcp_header : List UInt8) : Parse ProbeId :=
  if tcp_header.length < 8 then .error .reject
  else do
    let seq ← be32 tcp_header 4
    return ProbeId.fromSequence (seq >>> 16).toUInt16

/-- `extract_probe_id_from_udp_payload`. -/
def extractProbeIdFromUdpPayload (udp_payload : List UInt8) : Parse ProbeId :=
  if udp_payload.length < 6 then .error .reject
  else do
    let m0 ← byte udp_payload 2
    let m1 ← byte udp_payload 3
    let m2 ← byte udp_payload 4
    if m0 ≠ 0x54 ∨ m1 ≠ 0x54 ∨ m2 ≠ 0x4C then .error .reject
    else return ProbeId.fromSequence (← be16 udp_payload 0)

/-- The `ProbeId` of an Echo message: from its header when the identifier there is ours, and from its
payload when that begins with our identifier. -/
def echoProbeId (echo : List UInt8) (our_identifier : UInt16) : Parse ProbeId := do
  let identifier ← be16 echo 4
  let sequence ← be16 echo 6
  if identifier = our_identifier then return ProbeId.fromSequence sequence
  -- A datagram socket rewrites the identifier in the header, and leaves the one in the payload.
  else if 12 ≤ echo.length then
    match ← extractIdFromPayload (← dropFrom echo 8) our_identifier with
    | some (_, payload_seq) => return ProbeId.fromSequence payload_seq
    | none => .error .reject
  else .error .reject

/-! ## Echo Replies -/

/-- The part of the parsers that handles Echo Replies, whose responder is the target. -/
def parseEchoReply (icmp_data : List UInt8) (responder : IpAddr) (our_identifier : UInt16) :
    Parse ParsedResponse := do
  let probe_id ← echoProbeId icmp_data our_identifier
  return {
    responder := responder
    probe_id := probe_id
    response_type := .EchoReply
    is_pmtud := isPmtudPayload (← dropFrom icmp_data 8)
    mpls_labels := none
    interface_info := none
    src_port := none
    mtu := none
    quoted_ttl := none
    original_dest := some responder }

/-! ## Quoted packets -/

/-- A quoted Echo Request, of the type of its family. -/
def quotedEcho (echo_type : UInt8) (original_payload : List UInt8) (our_identifier : UInt16) :
    Parse (ProbeId × Option UInt16) :=
  if original_payload.length < 8 then .error .reject
  else do
    if (← byte original_payload 0) ≠ echo_type then .error .reject
    else return (← echoProbeId original_payload our_identifier, none)

/-- A quoted TCP segment. -/
def quotedTcp (original_payload : List UInt8) : Parse (ProbeId × Option UInt16) :=
  if original_payload.length < 8 then .error .reject
  else do
    let src_port ← be16 original_payload 0
    return (← extractProbeIdFromTcp original_payload, some src_port)

/-- A quoted UDP datagram. -/
def quotedUdp (original_payload : List UInt8) : Parse (ProbeId × Option UInt16) :=
  if original_payload.length < 8 + 6 then .error .reject
  else do
    let src_port ← be16 original_payload 0
    let udp_payload ← dropFrom original_payload 8
    return (← extractProbeIdFromUdpPayload udp_payload, some src_port)

/-- `match` on the transport protocol of the quoted packet: the probe and the source port. The ICMP
protocol and the type of its Echo Request are those of the family. -/
def parseQuoted (icmp_protocol echo_type protocol : UInt8) (original_payload : List UInt8)
    (our_identifier : UInt16) : Parse (ProbeId × Option UInt16) :=
  if protocol = icmp_protocol then quotedEcho echo_type original_payload our_identifier
  else if protocol = ipprotoTcp then quotedTcp original_payload
  else if protocol = ipprotoUdp then quotedUdp original_payload
  else .error .reject

/-- The response for an error that quotes a probe. -/
def errorResponse (responder : IpAddr) (response_type : IcmpResponseType) (mtu : Option UInt16)
    (quoted_ttl : UInt8) (original_dest : IpAddr) (exts : ParsedIcmpExtensions)
    (probe : ProbeId × Option UInt16) : ParsedResponse where
  responder := responder
  probe_id := probe.1
  response_type := response_type
  is_pmtud := false
  mpls_labels := exts.mpls_labels
  interface_info := exts.interface_info
  src_port := probe.2
  mtu := mtu
  quoted_ttl := some quoted_ttl
  original_dest := some original_dest

/-- The header length of an IPv4 packet, from the low nibble of its first byte. -/
def ipv4HeaderLength (first : UInt8) : ℕ := (first &&& 0x0F).toNat * 4

/-- `parse_icmp_error_payload_v4_with_mtu`, and `parse_icmp_error_payload_v4_dgram`. -/
def parseIcmpErrorPayloadV4WithMtu (icmp_data : List UInt8) (responder : IpAddr)
    (our_identifier : UInt16) (response_type : IcmpResponseType) (mtu : Option UInt16) :
    Parse ParsedResponse :=
  -- `Ipv4Packet::new` needs 20 bytes, which this check provides.
  if icmp_data.length < 8 + 20 + 8 then .error .reject
  else do
    let icmp_length ← byte icmp_data 5
    let original_ip_data ← dropFrom icmp_data 8
    let orig_ihl := ipv4HeaderLength (← byte original_ip_data 0)
    let orig_protocol ← byte original_ip_data 9
    let quoted_ttl ← byte original_ip_data 8
    let original_dest ← readIpv4Addr original_ip_data 16
    if original_ip_data.length < orig_ihl + 8 then .error .reject
    else do
      let original_payload ← dropFrom original_ip_data orig_ihl
      let exts ← parseIcmpExtensions original_ip_data icmp_length false
      let probe ← parseQuoted ipprotoIcmp 8 orig_protocol original_payload our_identifier
      return errorResponse responder response_type mtu quoted_ttl (.V4 original_dest) exts probe

/-- `IPV6_HEADER_LEN`. -/
def ipv6HeaderLen : ℕ := 40

/-- `IPV6_NH_HOP_BY_HOP`, `IPV6_NH_ROUTING` and `IPV6_NH_DEST_OPTS`, the headers that the walk skips. -/
def ipv6Skipped : List UInt8 := [0, 43, 60]

/-- `IPV6_NH_FRAGMENT` and `IPV6_NH_NO_NEXT`, where the walk gives up. -/
def ipv6Stopped : List UInt8 := [44, 59]

/-- The loop of `skip_ipv6_ext_headers_quoted`, each iteration costing one unit of `fuel`. -/
def skipExtHeaders (ipv6_data : List UInt8) : ℕ → ℕ → UInt8 → Parse (Option (ℕ × UInt8))
  | 0, _, _ => .error .fuel
  | fuel + 1, offset, next_header =>
    if next_header ∈ ipv6Skipped then
      if ipv6_data.length < offset + 2 then .ok none
      else do
        let next_header ← byte ipv6_data offset
        let ext_len := ((← byte ipv6_data (offset + 1)).toNat + 1) * 8
        if ipv6_data.length < offset + ext_len then .ok none
        else skipExtHeaders ipv6_data fuel (offset + ext_len) next_header
    else if next_header ∈ ipv6Stopped then .ok none
    else .ok (some (offset, next_header))

/-- `skip_ipv6_ext_headers_quoted`: where the transport header of a quoted packet is, and its protocol. -/
def skipIpv6ExtHeadersQuoted (ipv6_data : List UInt8) : Parse (Option (ℕ × UInt8)) :=
  if ipv6_data.length < ipv6HeaderLen then .ok none
  else do skipExtHeaders ipv6_data ipv6_data.length ipv6HeaderLen (← byte ipv6_data 6)

/-- `parse_icmp_error_payload_v6_dgram`. -/
def parseIcmpErrorPayloadV6Dgram (icmp_data : List UInt8) (responder : IpAddr)
    (our_identifier : UInt16) (response_type : IcmpResponseType) (mtu : Option UInt16) :
    Parse ParsedResponse :=
  if icmp_data.length < 8 + ipv6HeaderLen + 8 then .error .reject
  else do
    let icmp_length ← byte icmp_data 4
    let original_ipv6_data ← dropFrom icmp_data 8
    let next_header ← byte original_ipv6_data 6
    let quoted_ttl ← byte original_ipv6_data 7
    let original_dest ← readIpv6Addr original_ipv6_data 24
    -- Where the walk gives up, the field of the fixed header counts, right behind that header.
    let (transport_offset, next_header) :=
      (← skipIpv6ExtHeadersQuoted original_ipv6_data).getD (ipv6HeaderLen, next_header)
    if original_ipv6_data.length < transport_offset then .error .reject
    else do
      let original_payload ← dropFrom original_ipv6_data transport_offset
      let exts ← parseIcmpExtensions original_ipv6_data icmp_length true
      let probe ← parseQuoted ipprotoIcmpv6 128 next_header original_payload our_identifier
      return errorResponse responder response_type mtu quoted_ttl (.V6 original_dest) exts probe

/-! ## Messages -/

/-- The MTU of a Fragmentation Needed message. -/
def fragNeededMtu (icmp_data : List UInt8) (icmp_code : UInt8) : Parse (Option UInt16) :=
  if icmp_code = 4 ∧ 8 ≤ icmp_data.length then do
    let mtu_val ← be16 icmp_data 6
    return if 0 < mtu_val then some mtu_val else none
  else .ok none

/-- The MTU of a Packet Too Big message. -/
def packetTooBigMtu (icmp_data : List UInt8) : Parse (Option UInt16) :=
  if 8 ≤ icmp_data.length then do
    let mtu_val ← be32 icmp_data 4
    return if 0 < mtu_val ∧ mtu_val ≤ 65535 then some mtu_val.toUInt16 else none
  else .ok none

/-- `parse_icmp_response_v4_dgram`, which is also `parse_icmp_response_v4` after the IP header. -/
def parseIcmpResponseV4Dgram (icmp_data : List UInt8) (responder : IpAddr) (our_identifier : UInt16) :
    Parse ParsedResponse :=
  if icmp_data.length < 8 then .error .reject
  else do
    let icmp_type ← byte icmp_data 0
    let icmp_code ← byte icmp_data 1
    if icmp_type = 0 then
      -- Only Echo Replies have their checksum verified, and only in IPv4.
      if validateIcmpChecksum icmp_data then parseEchoReply icmp_data responder our_identifier
      else .error .reject
    else if icmp_type = 11 then
      parseIcmpErrorPayloadV4WithMtu icmp_data responder our_identifier (.TimeExceeded icmp_code) none
    else if icmp_type = 3 then do
      let mtu ← fragNeededMtu icmp_data icmp_code
      parseIcmpErrorPayloadV4WithMtu icmp_data responder our_identifier (.DestUnreachable icmp_code) mtu
    else .error .reject

/-- `parse_icmp_response_v4`. -/
def parseIcmpResponseV4 (data : List UInt8) (responder : IpAddr) (our_identifier : UInt16) :
    Parse ParsedResponse :=
  -- `Ipv4Packet::new`.
  if data.length < 20 then .error .reject
  else do
    let ip_header_len := ipv4HeaderLength (← byte data 0)
    if data.length < ip_header_len + 8 then .error .reject
    else do parseIcmpResponseV4Dgram (← dropFrom data ip_header_len) responder our_identifier

/-- `parse_icmp_response_v6_dgram`. -/
def parseIcmpResponseV6Dgram (icmp_data : List UInt8) (responder : IpAddr) (our_identifier : UInt16) :
    Parse ParsedResponse :=
  if icmp_data.length < 8 then .error .reject
  else do
    let icmp_type ← byte icmp_data 0
    let icmp_code ← byte icmp_data 1
    if icmp_type = 129 then parseEchoReply icmp_data responder our_identifier
    else if icmp_type = 2 then do
      let mtu ← packetTooBigMtu icmp_data
      parseIcmpErrorPayloadV6Dgram icmp_data responder our_identifier .PacketTooBig mtu
    else if icmp_type = 3 then
      parseIcmpErrorPayloadV6Dgram icmp_data responder our_identifier (.TimeExceeded icmp_code) none
    else if icmp_type = 1 then
      parseIcmpErrorPayloadV6Dgram icmp_data responder our_identifier (.DestUnreachable icmp_code) none
    else .error .reject

/-- `parse_icmp_response`. A raw IPv6 socket delivers no IP header either. -/
def parseIcmpResponse (data : List UInt8) (responder : IpAddr) (our_identifier : UInt16)
    (is_dgram : Bool) : Parse ParsedResponse :=
  if data.isEmpty then .error .reject
  else if is_dgram then
    if responder.isIpv6 then parseIcmpResponseV6Dgram data responder our_identifier
    else parseIcmpResponseV4Dgram data responder our_identifier
  else if responder.isIpv6 then parseIcmpResponseV6Dgram data responder our_identifier
  else parseIcmpResponseV4 data responder our_identifier

/-! ## The parser always ends

Every index is in range and every walk ends before its bound, by the length checks above it. -/

section

variable (our_identifier : UInt16)

/-- The identifier of a payload is read, or there is none. -/
theorem extractIdFromPayload_succeeds (payload : List UInt8) :
    Succeeds (extractIdFromPayload payload our_identifier) := by
  unfold extractIdFromPayload
  split_ifs
  · exact Succeeds.ok _
  · exact (be16_succeeds (by omega)).bind fun _ _ =>
      (be16_succeeds (by omega)).bind fun _ _ => Succeeds.ok _

/-- The `ProbeId` of a TCP header is read or rejected. -/
theorem extractProbeIdFromTcp_safe (tcp_header : List UInt8) :
    Safe (extractProbeIdFromTcp tcp_header) := by
  unfold extractProbeIdFromTcp
  split_ifs
  · exact Safe.reject
  · exact (be32_succeeds (by omega)).safe.bind fun _ _ => Safe.ok _

/-- The `ProbeId` of a UDP payload is read or rejected. -/
theorem extractProbeIdFromUdpPayload_safe (udp_payload : List UInt8) :
    Safe (extractProbeIdFromUdpPayload udp_payload) := by
  unfold extractProbeIdFromUdpPayload
  split_ifs
  · exact Safe.reject
  · refine (byte_succeeds (by omega)).safe.bind fun m0 _ => ?_
    refine (byte_succeeds (by omega)).safe.bind fun m1 _ => ?_
    refine (byte_succeeds (by omega)).safe.bind fun m2 _ => ?_
    split_ifs
    · exact Safe.reject
    · exact (be16_succeeds (by omega)).safe.bind fun _ _ => Safe.ok _

/-- The `ProbeId` of an Echo Request with its eight bytes is read or rejected. -/
theorem echoProbeId_safe {echo : List UInt8} (h : 8 ≤ echo.length) :
    Safe (echoProbeId echo our_identifier) := by
  unfold echoProbeId
  refine (be16_succeeds (by omega)).safe.bind fun identifier _ => ?_
  refine (be16_succeeds (by omega)).safe.bind fun sequence _ => ?_
  split_ifs
  · exact Safe.ok _
  · rw [dropFrom_ok h]
    refine (extractIdFromPayload_succeeds our_identifier (echo.drop 8)).safe.bind fun r _ => ?_
    cases r with
    | none => exact Safe.reject
    | some ids => exact Safe.ok _
  · exact Safe.reject

/-- An Echo Reply with its eight bytes is read or rejected. -/
theorem parseEchoReply_safe {icmp_data : List UInt8} (responder : IpAddr)
    (h : 8 ≤ icmp_data.length) : Safe (parseEchoReply icmp_data responder our_identifier) := by
  refine (echoProbeId_safe our_identifier h).bind fun probe_id _ => ?_
  rw [dropFrom_ok h]
  exact Safe.ok _

/-- A quoted transport header is read or rejected, whatever it is. -/
theorem parseQuoted_safe (icmp_protocol echo_type protocol : UInt8) (original_payload : List UInt8) :
    Safe (parseQuoted icmp_protocol echo_type protocol original_payload our_identifier) := by
  unfold parseQuoted quotedEcho quotedTcp quotedUdp
  split_ifs with hicmp hlen htcp hlen hudp hlen
  · exact Safe.reject
  · refine (byte_succeeds (by omega)).safe.bind fun first _ => ?_
    split_ifs
    · exact Safe.reject
    · exact (echoProbeId_safe our_identifier (by omega)).bind fun _ _ => Safe.ok _
  · exact Safe.reject
  · refine (be16_succeeds (by omega)).safe.bind fun src_port _ => ?_
    exact (extractProbeIdFromTcp_safe original_payload).bind fun _ _ => Safe.ok _
  · exact Safe.reject
  · refine (be16_succeeds (by omega)).safe.bind fun src_port _ => ?_
    rw [dropFrom_ok (by omega)]
    exact (extractProbeIdFromUdpPayload_safe _).bind fun _ _ => Safe.ok _
  · exact Safe.reject

/-- Each header that is skipped takes at least eight bytes, so that the walk ends before its fuel. -/
theorem skipExtHeaders_succeeds (ipv6_data : List UInt8) {fuel offset : ℕ} (next_header : UInt8)
    (hle : offset ≤ ipv6_data.length) (hfuel : ipv6_data.length < offset + fuel) :
    Succeeds (skipExtHeaders ipv6_data fuel offset next_header) := by
  induction fuel generalizing offset next_header with
  | zero => omega
  | succ fuel ih =>
    unfold skipExtHeaders
    split_ifs with hskip hlen
    · exact Succeeds.ok _
    · refine (byte_succeeds (by omega)).bind fun next _ => ?_
      refine (byte_succeeds (by omega)).bind fun units _ => ?_
      dsimp only
      split_ifs with hext
      · exact Succeeds.ok _
      · -- The next header is at least eight bytes further on.
        exact ih next (by omega) (by omega)
    · exact Succeeds.ok _
    · exact Succeeds.ok _

/-- The walk over extension headers ends within its bound. -/
theorem skipIpv6ExtHeadersQuoted_succeeds (ipv6_data : List UInt8) :
    Succeeds (skipIpv6ExtHeadersQuoted ipv6_data) := by
  unfold skipIpv6ExtHeadersQuoted ipv6HeaderLen
  split_ifs with hlen
  · exact Succeeds.ok _
  · exact (byte_succeeds (by omega)).bind fun next _ =>
      skipExtHeaders_succeeds ipv6_data next (by omega) (by omega)

variable (responder : IpAddr) (response_type : IcmpResponseType) (mtu : Option UInt16)

/-- An ICMP error is read or rejected. -/
theorem parseIcmpErrorPayloadV4WithMtu_safe (icmp_data : List UInt8) :
    Safe (parseIcmpErrorPayloadV4WithMtu icmp_data responder our_identifier response_type mtu) := by
  unfold parseIcmpErrorPayloadV4WithMtu
  split_ifs with hlen
  · exact Safe.reject
  · refine (byte_succeeds (by omega)).safe.bind fun icmp_length _ => ?_
    rw [dropFrom_ok (by omega)]
    have hquote : 28 ≤ (icmp_data.drop 8).length := by
      rw [List.length_drop]
      omega
    refine (byte_succeeds (by omega)).safe.bind fun first _ => ?_
    refine (byte_succeeds (by omega)).safe.bind fun orig_protocol _ => ?_
    refine (byte_succeeds (by omega)).safe.bind fun quoted_ttl _ => ?_
    refine (readIpv4Addr_succeeds _ _ (by omega)).safe.bind fun original_dest _ => ?_
    split_ifs with hihl
    · exact Safe.reject
    · rw [dropFrom_ok (by omega)]
      refine (parseIcmpExtensions_succeeds _ icmp_length false).safe.bind fun exts _ => ?_
      exact (parseQuoted_safe our_identifier _ _ orig_protocol _).bind fun _ _ => Safe.ok _

/-- An ICMPv6 error is read or rejected. -/
theorem parseIcmpErrorPayloadV6Dgram_safe (icmp_data : List UInt8) :
    Safe (parseIcmpErrorPayloadV6Dgram icmp_data responder our_identifier response_type mtu) := by
  unfold parseIcmpErrorPayloadV6Dgram ipv6HeaderLen
  split_ifs with hlen
  · exact Safe.reject
  · refine (byte_succeeds (by omega)).safe.bind fun icmp_length _ => ?_
    rw [dropFrom_ok (by omega)]
    have hquote : 48 ≤ (icmp_data.drop 8).length := by
      rw [List.length_drop]
      omega
    refine (byte_succeeds (by omega)).safe.bind fun next_header _ => ?_
    refine (byte_succeeds (by omega)).safe.bind fun quoted_ttl _ => ?_
    refine (readIpv6Addr_succeeds _ _ (by omega)).safe.bind fun original_dest _ => ?_
    refine (skipIpv6ExtHeadersQuoted_succeeds _).safe.bind fun skipped _ => ?_
    dsimp only
    split_ifs with hoff
    · exact Safe.reject
    · rw [dropFrom_ok (by omega)]
      refine (parseIcmpExtensions_succeeds _ icmp_length true).safe.bind fun exts _ => ?_
      exact (parseQuoted_safe our_identifier _ _ _ _).bind fun _ _ => Safe.ok _

/-- The MTU of a Fragmentation Needed is read, or there is none. -/
theorem fragNeededMtu_succeeds (icmp_data : List UInt8) (icmp_code : UInt8) :
    Succeeds (fragNeededMtu icmp_data icmp_code) := by
  unfold fragNeededMtu
  split_ifs
  · exact (be16_succeeds (by omega)).bind fun _ _ => Succeeds.ok _
  · exact Succeeds.ok _

/-- The MTU of a Packet Too Big is read, or there is none. -/
theorem packetTooBigMtu_succeeds (icmp_data : List UInt8) : Succeeds (packetTooBigMtu icmp_data) := by
  unfold packetTooBigMtu
  split_ifs
  · exact (be32_succeeds (by omega)).bind fun _ _ => Succeeds.ok _
  · exact Succeeds.ok _

/-- A message of a datagram socket is read or rejected. -/
theorem parseIcmpResponseV4Dgram_safe (icmp_data : List UInt8) :
    Safe (parseIcmpResponseV4Dgram icmp_data responder our_identifier) := by
  unfold parseIcmpResponseV4Dgram
  by_cases hlen : icmp_data.length < 8
  · rw [if_pos hlen]
    exact Safe.reject
  · rw [if_neg hlen]
    refine (byte_succeeds (by omega)).safe.bind fun icmp_type _ => ?_
    refine (byte_succeeds (by omega)).safe.bind fun icmp_code _ => ?_
    split_ifs
    · exact parseEchoReply_safe our_identifier responder (by omega)
    · exact Safe.reject
    · exact parseIcmpErrorPayloadV4WithMtu_safe our_identifier responder _ _ icmp_data
    · exact (fragNeededMtu_succeeds icmp_data icmp_code).safe.bind fun mtu _ =>
        parseIcmpErrorPayloadV4WithMtu_safe our_identifier responder _ mtu icmp_data
    · exact Safe.reject

/-- A packet of a raw socket is read or rejected. -/
theorem parseIcmpResponseV4_safe (data : List UInt8) :
    Safe (parseIcmpResponseV4 data responder our_identifier) := by
  unfold parseIcmpResponseV4
  split_ifs with hlen
  · exact Safe.reject
  · refine (byte_succeeds (by omega)).safe.bind fun first _ => ?_
    dsimp only
    split_ifs with hihl
    · exact Safe.reject
    · rw [dropFrom_ok (by omega)]
      exact parseIcmpResponseV4Dgram_safe our_identifier responder _

/-- A message of an ICMPv6 socket is read or rejected. -/
theorem parseIcmpResponseV6Dgram_safe (icmp_data : List UInt8) :
    Safe (parseIcmpResponseV6Dgram icmp_data responder our_identifier) := by
  unfold parseIcmpResponseV6Dgram
  split_ifs with hlen
  · exact Safe.reject
  · refine (byte_succeeds (by omega)).safe.bind fun icmp_type _ => ?_
    refine (byte_succeeds (by omega)).safe.bind fun icmp_code _ => ?_
    split_ifs
    · exact parseEchoReply_safe our_identifier responder (by omega)
    · exact (packetTooBigMtu_succeeds icmp_data).safe.bind fun mtu _ =>
        parseIcmpErrorPayloadV6Dgram_safe our_identifier responder _ mtu icmp_data
    · exact parseIcmpErrorPayloadV6Dgram_safe our_identifier responder _ _ icmp_data
    · exact parseIcmpErrorPayloadV6Dgram_safe our_identifier responder _ _ icmp_data
    · exact Safe.reject

/-- Whatever bytes a socket delivers, the parser returns a response or rejects them. -/
theorem parseIcmpResponse_safe (data : List UInt8) (is_dgram : Bool) :
    Safe (parseIcmpResponse data responder our_identifier is_dgram) := by
  unfold parseIcmpResponse
  split_ifs
  · exact Safe.reject
  · exact parseIcmpResponseV6Dgram_safe our_identifier responder data
  · exact parseIcmpResponseV4Dgram_safe our_identifier responder data
  · exact parseIcmpResponseV6Dgram_safe our_identifier responder data
  · exact parseIcmpResponseV4_safe our_identifier responder data

end

end Ttl
