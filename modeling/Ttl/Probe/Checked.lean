import Ttl.Lib.Checked
import Ttl.Probe.Correlate

/-!
# The parsers line by line

The parsers of `src/probe/correlate.rs` once more, with what `Ttl.Probe.Correlate` leaves out: every sum and
product is one of `usize` or `u32` that may overflow, every loop is a loop, and the raw and the datagram
parsers of IPv4 are the two copies that the source has. `Ipv4Packet::new` and `IcmpPacket::new` of `pnet` reject
what is shorter than 20 and 4 bytes, and their getters read those bytes.
-/

namespace Ttl

open Bytes

namespace Checked

/-! ## Checksums -/

/-- The sum with the word at the index `i`, unless that is the one to skip. -/
def addWord (skip : Option ℕ) (data : List UInt8) (i sum : ℕ) : Parse ℕ :=
  if skip = some i then return sum else do addU32 sum (← be16 data i).toNat

/-- An iteration of the loop over the 16-bit words of a message. -/
def sumBody (skip : Option ℕ) (data : List UInt8) : ℕ × ℕ → Parse (Next (ℕ × ℕ) (ℕ × ℕ))
  | (i, sum) => do
    if (← addUsize i 1) < data.length then
      let sum ← addWord skip data i sum
      return .again (← addUsize i 2, sum)
    else return .leave (i, sum)

/-- The sum of the words on top of `sum`, and of an odd last byte as the high byte of a word. -/
def addWords (skip : Option ℕ) (data : List UInt8) (sum : ℕ) : Parse ℕ := do
  -- The index moves on by two, so that this many iterations are enough.
  let (i, sum) ← loop (sumBody skip data) (data.length + 1) (0, sum)
  if i < data.length then addU32 sum ((← byte data i).toNat * 2^8) else return sum

/-- An iteration of the loop that folds the carries of a sum. -/
def foldBody (sum : ℕ) : Parse (Next ℕ ℕ) := do
  if sum / 2^16 ≠ 0 then return .again (← addU32 (sum % 2^16) (sum / 2^16)) else return .leave sum

/-- The sum without carries. -/
def fold (sum : ℕ) : Parse ℕ := loop foldBody 3 sum

/-- `validate_icmp_checksum`. -/
def validateIcmpChecksum (data : List UInt8) : Parse Bool :=
  if data.length < 4 then return false
  else do
    let sum ← fold (← addWords none data 0)
    return sum = 0xFFFF ∨ sum = 0

/-! ## Extensions -/

/-- The `ifIndex`, bit `0x08`. -/
def subIfIndex (c_type : UInt8) (obj_payload : List UInt8) (pos : ℕ) :
    Parse (Option (Option UInt32 × ℕ)) :=
  if c_type &&& 0x08 ≠ 0 then do
    if (← addUsize pos 4) ≤ obj_payload.length then
      return some (some (← be32 obj_payload pos), ← addUsize pos 4)
    else return none
  else return some (none, pos)

/-- The IP address, bit `0x04`. -/
def subIpAddress (c_type : UInt8) (obj_payload : List UInt8) (pos : ℕ) :
    Parse (Option (Option IpAddr × ℕ)) :=
  if c_type &&& 0x04 ≠ 0 then do
    if (← addUsize pos 4) ≤ obj_payload.length then
      let afi ← be16 obj_payload pos
      let pos ← addUsize pos 4
      if afi = 1 then
        if (← addUsize pos 4) ≤ obj_payload.length then
          return some (some (.V4 (← readIpv4Addr obj_payload pos)), ← addUsize pos 4)
        else return none
      else if afi = 2 then
        if (← addUsize pos 16) ≤ obj_payload.length then
          return some (some (.V6 (← readIpv6Addr obj_payload pos)), ← addUsize pos 16)
        else return none
      else return none
    else return none
  else return some (none, pos)

/-- The name, bit `0x02`. -/
def subName (c_type : UInt8) (obj_payload : List UInt8) (pos : ℕ) :
    Parse (Option (Option String × ℕ)) :=
  if c_type &&& 0x02 ≠ 0 then
    if pos < obj_payload.length then do
      let name_len := (← byte obj_payload pos).toNat
      if 1 ≤ name_len then
        if (← addUsize pos name_len) ≤ obj_payload.length then
          let raw_name ← slice obj_payload (← addUsize pos 1) (← addUsize pos name_len)
          return some (interfaceName raw_name, ← addUsize pos name_len)
        else return none
      else return none
    else return none
  else return some (none, pos)

/-- The MTU, bit `0x01`. -/
def subMtu (c_type : UInt8) (obj_payload : List UInt8) (pos : ℕ) :
    Parse (Option (Option UInt32 × ℕ)) :=
  if c_type &&& 0x01 ≠ 0 then do
    if (← addUsize pos 4) ≤ obj_payload.length then return some (some (← be32 obj_payload pos), pos)
    else return none
  else return some (none, pos)

/-- An interface information object, `none` when it is malformed. -/
def parseInterfaceInfo (role : InterfaceRole) (c_type : UInt8) (obj_payload : List UInt8) :
    Parse (Option IcmpInterfaceInfo) := do
  match ← subIfIndex c_type obj_payload 0 with
  | none => return none
  | some (if_index, pos) =>
    match ← subIpAddress c_type obj_payload pos with
    | none => return none
    | some (ip_addr, pos) =>
      match ← subName c_type obj_payload pos with
      | none => return none
      | some (name, pos) =>
        match ← subMtu c_type obj_payload pos with
        | none => return none
        | some (mtu, _) => return some ⟨role, if_index, ip_addr, name, mtu⟩

/-- One object. -/
def parseObject (obj_class obj_type : UInt8) (obj_payload : List UInt8) (acc : ExtensionObjects) :
    Parse ExtensionObjects :=
  if obj_class = mplsLabelStackClass ∧ obj_type = mplsLabelStackType then
    return { acc with labels := acc.labels ++ mplsLabels obj_payload }
  else if obj_class = interfaceInfoClass then
    let role_val := (obj_type >>> 6) &&& 0x03
    let role_mask : UInt8 := 1 <<< role_val
    if acc.seen_roles &&& role_mask = 0 then do
      let role ← interfaceRole role_val
      let info ← parseInterfaceInfo role obj_type obj_payload
      return { acc with
        seen_roles := acc.seen_roles ||| role_mask
        interfaces := acc.interfaces ++ info.toList }
    else return acc
  else return acc

/-- An iteration of the loop over the objects. -/
def objectBody (ext_header : List UInt8) :
    ℕ × ExtensionObjects → Parse (Next (ℕ × ExtensionObjects) ExtensionObjects)
  | (offset, acc) => do
    if (← addUsize offset 4) ≤ ext_header.length then
      let obj_length := (← be16 ext_header offset).toNat
      let obj_class ← byte ext_header (← addUsize offset 2)
      let obj_type ← byte ext_header (← addUsize offset 3)
      if obj_length < 4 then return .leave acc
      else if ext_header.length < (← addUsize offset obj_length) then return .leave acc
      else
        let obj_payload ← slice ext_header (← addUsize offset 4) (← addUsize offset obj_length)
        let acc ← parseObject obj_class obj_type obj_payload acc
        return .again (← addUsize offset obj_length, acc)
    else return .leave acc

/-- Where the extensions start. -/
def extensionStart (icmp_length : UInt8) (is_ipv6 : Bool) : Parse ℕ :=
  if 0 < icmp_length then
    if is_ipv6 then mulUsize icmp_length.toNat 8 else mulUsize icmp_length.toNat 4
  else return minOriginalDatagram

/-- `parse_icmp_extensions`. -/
def parseIcmpExtensions (icmp_payload : List UInt8) (icmp_length : UInt8) (is_ipv6 : Bool) :
    Parse ParsedIcmpExtensions := do
  let ext_start ← extensionStart icmp_length is_ipv6
  if icmp_payload.length < (← addUsize ext_start 4) then return .default
  else
    let ext_header ← dropFrom icmp_payload ext_start
    let version := ((← byte ext_header 0) >>> 4) &&& 0x0F
    if version ≠ icmpExtVersion then return .default
    else
      let objects ← loop (objectBody ext_header) ext_header.length (4, ⟨[], [], 0⟩)
      return ⟨nonempty objects.labels, nonempty objects.interfaces⟩

/-! ## What `pnet` reads -/

/-- `Ipv4Packet::new`. -/
def ipv4Packet (data : List UInt8) : Parse (List UInt8) :=
  if data.length < 20 then .error .reject else return data

/-- `get_header_length`, in words. -/
def getHeaderLength (packet : List UInt8) : Parse ℕ := do
  return ((← byte packet 0) &&& 0x0F).toNat

/-- `IcmpPacket::new`. -/
def icmpPacket (data : List UInt8) : Parse (List UInt8) :=
  if data.length < 4 then .error .reject else return data

/-- The response of an Echo Reply. -/
def echoResponse (icmp_data : List UInt8) (responder : IpAddr) (sequence : UInt16) :
    Parse ParsedResponse := do
  return {
    responder := responder
    probe_id := ProbeId.fromSequence sequence
    response_type := .EchoReply
    is_pmtud := isPmtudPayload (← dropFrom icmp_data 8)
    mpls_labels := none
    interface_info := none
    src_port := none
    mtu := none
    quoted_ttl := none
    original_dest := some responder }

/-! ## Raw sockets -/

/-- `parse_icmp_error_payload_v4_with_mtu`. -/
def parseIcmpErrorPayloadV4WithMtu (icmp_data : List UInt8) (responder : IpAddr)
    (our_identifier : UInt16) (response_type : IcmpResponseType) (mtu : Option UInt16) :
    Parse ParsedResponse :=
  if icmp_data.length < 8 + 20 + 8 then .error .reject
  else do
    let icmp_length ← byte icmp_data 5
    let original_ip_data ← dropFrom icmp_data 8
    let original_ip ← ipv4Packet original_ip_data
    let orig_ihl ← mulUsize (← getHeaderLength original_ip) 4
    let orig_protocol ← byte original_ip 9
    let quoted_ttl ← byte original_ip 8
    let original_dest ← readIpv4Addr original_ip 16
    if original_ip_data.length < (← addUsize orig_ihl 8) then .error .reject
    else
      let original_payload ← dropFrom original_ip_data orig_ihl
      let exts ← parseIcmpExtensions (← dropFrom icmp_data 8) icmp_length false
      let response := errorResponse responder response_type mtu quoted_ttl (.V4 original_dest) exts
      if orig_protocol = ipprotoIcmp then
        if (← byte original_payload 0) ≠ 8 then .error .reject
        else
          let identifier ← be16 original_payload 4
          let sequence ← be16 original_payload 6
          if identifier = our_identifier then return response (ProbeId.fromSequence sequence, none)
          else if 12 ≤ original_payload.length then
            match ← extractIdFromPayload (← dropFrom original_payload 8) our_identifier with
            | some (_, payload_seq) => return response (ProbeId.fromSequence payload_seq, none)
            | none => .error .reject
          else .error .reject
      else if orig_protocol = ipprotoTcp then
        if original_payload.length < 8 then .error .reject
        else
          let src_port ← be16 original_payload 0
          let probe_id ← extractProbeIdFromTcp original_payload
          return response (probe_id, some src_port)
      else if orig_protocol = ipprotoUdp then
        if original_payload.length < 8 + 6 then .error .reject
        else
          let src_port ← be16 original_payload 0
          let udp_payload ← dropFrom original_payload 8
          let probe_id ← extractProbeIdFromUdpPayload udp_payload
          return response (probe_id, some src_port)
      else .error .reject

/-- `parse_icmp_response_v4`: the types are those of `pnet`, and only the Echo Reply checks for a whole header. -/
def parseIcmpResponseV4 (data : List UInt8) (responder : IpAddr) (our_identifier : UInt16) :
    Parse ParsedResponse := do
  let ip_packet ← ipv4Packet data
  let ip_header_len ← mulUsize (← getHeaderLength ip_packet) 4
  if data.length < (← addUsize ip_header_len 8) then .error .reject
  else
    let icmp_data ← dropFrom data ip_header_len
    let icmp_packet ← icmpPacket icmp_data
    let icmp_type ← byte icmp_packet 0
    if icmp_type = 0 then
      if icmp_data.length < 8 then .error .reject
      else if ← validateIcmpChecksum icmp_data then
        let identifier ← be16 icmp_data 4
        let sequence ← be16 icmp_data 6
        if identifier = our_identifier then echoResponse icmp_data responder sequence
        else if 12 ≤ icmp_data.length then
          match ← extractIdFromPayload (← dropFrom icmp_data 8) our_identifier with
          | some (_, payload_seq) => echoResponse icmp_data responder payload_seq
          | none => .error .reject
        else .error .reject
      else .error .reject
    else if icmp_type = 11 then
      let code ← byte icmp_packet 1
      parseIcmpErrorPayloadV4WithMtu icmp_data responder our_identifier (.TimeExceeded code) none
    else if icmp_type = 3 then
      let code ← byte icmp_packet 1
      let mtu ←
        if code = 4 ∧ 8 ≤ icmp_data.length then do
          let mtu_val ← be16 icmp_data 6
          pure (if 0 < mtu_val then some mtu_val else none)
        else pure none
      parseIcmpErrorPayloadV4WithMtu icmp_data responder our_identifier (.DestUnreachable code) mtu
    else .error .reject

/-! ## Datagram sockets -/

/-- `parse_icmp_error_payload_v4_dgram`. -/
def parseIcmpErrorPayloadV4Dgram (icmp_data : List UInt8) (responder : IpAddr)
    (our_identifier : UInt16) (response_type : IcmpResponseType) (mtu : Option UInt16) :
    Parse ParsedResponse :=
  if icmp_data.length < 8 + 20 + 8 then .error .reject
  else do
    let icmp_length ← byte icmp_data 5
    let original_ip_data ← dropFrom icmp_data 8
    let original_ip ← ipv4Packet original_ip_data
    let orig_ihl ← mulUsize (← getHeaderLength original_ip) 4
    let orig_protocol ← byte original_ip 9
    let quoted_ttl ← byte original_ip 8
    let original_dest ← readIpv4Addr original_ip 16
    if original_ip_data.length < (← addUsize orig_ihl 8) then .error .reject
    else
      let original_payload ← dropFrom original_ip_data orig_ihl
      let exts ← parseIcmpExtensions (← dropFrom icmp_data 8) icmp_length false
      let response := errorResponse responder response_type mtu quoted_ttl (.V4 original_dest) exts
      if orig_protocol = ipprotoIcmp then
        if (← byte original_payload 0) ≠ 8 then .error .reject
        else
          let identifier ← be16 original_payload 4
          let sequence ← be16 original_payload 6
          if identifier = our_identifier then return response (ProbeId.fromSequence sequence, none)
          else if 12 ≤ original_payload.length then
            match ← extractIdFromPayload (← dropFrom original_payload 8) our_identifier with
            | some (_, payload_seq) => return response (ProbeId.fromSequence payload_seq, none)
            | none => .error .reject
          else .error .reject
      else if orig_protocol = ipprotoTcp then
        if original_payload.length < 8 then .error .reject
        else
          let src_port ← be16 original_payload 0
          let probe_id ← extractProbeIdFromTcp original_payload
          return response (probe_id, some src_port)
      else if orig_protocol = ipprotoUdp then
        if original_payload.length < 8 + 6 then .error .reject
        else
          let src_port ← be16 original_payload 0
          let udp_payload ← dropFrom original_payload 8
          let probe_id ← extractProbeIdFromUdpPayload udp_payload
          return response (probe_id, some src_port)
      else .error .reject

/-- `parse_icmp_response_v4_dgram`. -/
def parseIcmpResponseV4Dgram (icmp_data : List UInt8) (responder : IpAddr) (our_identifier : UInt16) :
    Parse ParsedResponse :=
  if icmp_data.length < 8 then .error .reject
  else do
    let icmp_type ← byte icmp_data 0
    let icmp_code ← byte icmp_data 1
    if icmp_type = 0 then
      if ← validateIcmpChecksum icmp_data then
        let identifier ← be16 icmp_data 4
        let sequence ← be16 icmp_data 6
        if identifier = our_identifier then echoResponse icmp_data responder sequence
        else if 12 ≤ icmp_data.length then
          match ← extractIdFromPayload (← dropFrom icmp_data 8) our_identifier with
          | some (_, payload_seq) => echoResponse icmp_data responder payload_seq
          | none => .error .reject
        else .error .reject
      else .error .reject
    else if icmp_type = 11 then
      parseIcmpErrorPayloadV4Dgram icmp_data responder our_identifier (.TimeExceeded icmp_code) none
    else if icmp_type = 3 then
      let mtu ←
        if icmp_code = 4 ∧ 8 ≤ icmp_data.length then do
          let mtu_val ← be16 icmp_data 6
          pure (if 0 < mtu_val then some mtu_val else none)
        else pure none
      parseIcmpErrorPayloadV4Dgram icmp_data responder our_identifier (.DestUnreachable icmp_code) mtu
    else .error .reject

/-! ## IPv6 -/

/-- An iteration of the loop over the extension headers of a quoted packet. -/
def headerBody (ipv6_data : List UInt8) : ℕ × UInt8 → Parse (Next (ℕ × UInt8) (Option (ℕ × UInt8)))
  | (offset, next_header) =>
    if next_header ∈ ipv6Skipped then do
      if ipv6_data.length < (← addUsize offset 2) then return .leave none
      else
        let next_header ← byte ipv6_data offset
        let ext_len ←
          mulUsize (← addUsize (← byte ipv6_data (← addUsize offset 1)).toNat 1) 8
        let offset ← addUsize offset ext_len
        if ipv6_data.length < offset then return .leave none
        else return .again (offset, next_header)
    else if next_header ∈ ipv6Stopped then return .leave none
    else return .leave (some (offset, next_header))

/-- `skip_ipv6_ext_headers_quoted`. -/
def skipIpv6ExtHeadersQuoted (ipv6_data : List UInt8) : Parse (Option (ℕ × UInt8)) :=
  if ipv6_data.length < ipv6HeaderLen then return none
  else do loop (headerBody ipv6_data) ipv6_data.length (ipv6HeaderLen, ← byte ipv6_data 6)

/-- `parse_icmp_error_payload_v6_dgram`. -/
def parseIcmpErrorPayloadV6Dgram (icmp_data : List UInt8) (responder : IpAddr)
    (our_identifier : UInt16) (response_type : IcmpResponseType) (mtu : Option UInt16) :
    Parse ParsedResponse :=
  if icmp_data.length < 8 + ipv6HeaderLen + 8 then .error .reject
  else do
    let icmp_length ← byte icmp_data 4
    let original_ipv6_data ← dropFrom icmp_data 8
    let next_header ← byte original_ipv6_data 6
    let quoted_ttl ← byte original_ipv6_data 7
    let original_dest ← readIpv6Addr original_ipv6_data 24
    -- A chain that cannot be walked is taken for none: the transport starts behind the fixed header.
    let (transport_offset, next_header) :=
      (← skipIpv6ExtHeadersQuoted original_ipv6_data).getD (ipv6HeaderLen, next_header)
    if original_ipv6_data.length < transport_offset then .error .reject
    else
      let original_payload ← dropFrom original_ipv6_data transport_offset
      let exts ← parseIcmpExtensions (← dropFrom icmp_data 8) icmp_length true
      let response := errorResponse responder response_type mtu quoted_ttl (.V6 original_dest) exts
      if next_header = ipprotoIcmpv6 then
        if original_payload.length < 8 then .error .reject
        else if (← byte original_payload 0) ≠ 128 then .error .reject
        else
          let identifier ← be16 original_payload 4
          let sequence ← be16 original_payload 6
          if identifier = our_identifier then return response (ProbeId.fromSequence sequence, none)
          else if 12 ≤ original_payload.length then
            match ← extractIdFromPayload (← dropFrom original_payload 8) our_identifier with
            | some (_, payload_seq) => return response (ProbeId.fromSequence payload_seq, none)
            | none => .error .reject
          else .error .reject
      else if next_header = ipprotoTcp then
        if original_payload.length < 8 then .error .reject
        else
          let src_port ← be16 original_payload 0
          let probe_id ← extractProbeIdFromTcp original_payload
          return response (probe_id, some src_port)
      else if next_header = ipprotoUdp then
        if original_payload.length < 8 + 6 then .error .reject
        else
          let src_port ← be16 original_payload 0
          let udp_payload ← dropFrom original_payload 8
          let probe_id ← extractProbeIdFromUdpPayload udp_payload
          return response (probe_id, some src_port)
      else .error .reject

/-- `parse_icmp_response_v6_dgram`. -/
def parseIcmpResponseV6Dgram (icmp_data : List UInt8) (responder : IpAddr) (our_identifier : UInt16) :
    Parse ParsedResponse :=
  if icmp_data.length < 8 then .error .reject
  else do
    let icmp_type ← byte icmp_data 0
    let icmp_code ← byte icmp_data 1
    if icmp_type = 129 then
      let identifier ← be16 icmp_data 4
      let sequence ← be16 icmp_data 6
      if identifier = our_identifier then echoResponse icmp_data responder sequence
      else if 12 ≤ icmp_data.length then
        match ← extractIdFromPayload (← dropFrom icmp_data 8) our_identifier with
        | some (_, payload_seq) => echoResponse icmp_data responder payload_seq
        | none => .error .reject
      else .error .reject
    else if icmp_type = 2 then
      let mtu ← packetTooBigMtu icmp_data
      parseIcmpErrorPayloadV6Dgram icmp_data responder our_identifier .PacketTooBig mtu
    else if icmp_type = 3 then
      parseIcmpErrorPayloadV6Dgram icmp_data responder our_identifier (.TimeExceeded icmp_code) none
    else if icmp_type = 1 then
      parseIcmpErrorPayloadV6Dgram icmp_data responder our_identifier (.DestUnreachable icmp_code) none
    else .error .reject

/-- `parse_icmp_response`. -/
def parseIcmpResponse (data : List UInt8) (responder : IpAddr) (our_identifier : UInt16)
    (is_dgram : Bool) : Parse ParsedResponse :=
  if data.isEmpty then .error .reject
  else if is_dgram then
    if responder.isIpv6 then parseIcmpResponseV6Dgram data responder our_identifier
    else parseIcmpResponseV4Dgram data responder our_identifier
  else if responder.isIpv6 then parseIcmpResponseV6Dgram data responder our_identifier
  else parseIcmpResponseV4 data responder our_identifier

end Checked

end Ttl
