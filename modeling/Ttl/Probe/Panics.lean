import Ttl.Probe.Copies
import Ttl.Probe.Sums

/-!
# No panics in the parsers

The parsers of `Ttl.Probe.Checked` against those of `Ttl.Probe.Correlate`. A position never exceeds the length of
the data, which a slice keeps below `2^63`, so that no sum of `usize` overflows, and each parser is the one without
the checks (`parseIcmpResponse_eq`). The one exception is the sum of `validate_icmp_checksum`, whose 32 bits an
Echo Reply of more than 131075 bytes can exceed.
-/

namespace Ttl

open Bytes

namespace Checked

/-! ## Extensions

Where a sub-object has been read, the next one starts within the payload. -/

section

variable {c_type : UInt8} {obj_payload : List UInt8} {pos : ℕ}

/-- The read of an interface index does not overflow. -/
theorem subIfIndex_eq (hlen : obj_payload.length < 2^63) (hpos : pos ≤ obj_payload.length) :
    subIfIndex c_type obj_payload pos = Ttl.subIfIndex c_type obj_payload pos := by
  have hnext : addUsize pos 4 = .ok (pos + 4) := addUsize_ok (by omega)
  unfold subIfIndex Ttl.subIfIndex
  rw [hnext]
  rfl

/-- The read of an address does not overflow. -/
theorem subIpAddress_eq (hlen : obj_payload.length < 2^63) (hpos : pos ≤ obj_payload.length) :
    subIpAddress c_type obj_payload pos = Ttl.subIpAddress c_type obj_payload pos := by
  have hfamily : addUsize pos 4 = .ok (pos + 4) := addUsize_ok (by omega)
  have hv4 : addUsize (pos + 4) 4 = .ok (pos + 4 + 4) := addUsize_ok (by omega)
  have hv6 : addUsize (pos + 4) 16 = .ok (pos + 4 + 16) := addUsize_ok (by omega)
  unfold subIpAddress Ttl.subIpAddress
  rw [hfamily]
  simp only [ok_bind, hv4, hv6]
  rfl

/-- The read of a name does not overflow. -/
theorem subName_eq (hlen : obj_payload.length < 2^63) :
    subName c_type obj_payload pos = Ttl.subName c_type obj_payload pos := by
  unfold subName Ttl.subName
  split_ifs with hbit hname
  · refine bind_congr fun len => ?_
    have hle : len.toNat < 2^8 := len.toNat_lt
    have hstart : addUsize pos 1 = .ok (pos + 1) := addUsize_ok (by omega)
    have hend : addUsize pos len.toNat = .ok (pos + len.toNat) := addUsize_ok (by omega)
    dsimp only
    rw [hstart, hend]
    simp only [ok_bind, ite_and]
    rfl
  · rfl
  · rfl

/-- The MTU is the last sub-object, and the position is not moved behind it. -/
theorem subMtu_eq (hlen : obj_payload.length < 2^63) (hpos : pos ≤ obj_payload.length) :
    subMtu c_type obj_payload pos =
      (Ttl.subMtu c_type obj_payload pos).map (Option.map fun r => (r.1, pos)) := by
  have hnext : addUsize pos 4 = .ok (pos + 4) := addUsize_ok (by omega)
  unfold subMtu Ttl.subMtu
  rw [hnext]
  split_ifs with hbit hmtu
  · obtain ⟨mtu, hread⟩ := be32_succeeds (show pos + 3 < obj_payload.length by omega)
    rw [ok_bind, if_pos hmtu, hread]
    rfl
  · rw [ok_bind, if_neg hmtu]
    rfl
  · rfl

/-- The read of an interface index ends within the payload. -/
theorem subIfIndex_le {if_index : Option UInt32} {pos' : ℕ} (hpos : pos ≤ obj_payload.length)
    (h : Ttl.subIfIndex c_type obj_payload pos = .ok (some (if_index, pos'))) :
    pos' ≤ obj_payload.length := by
  unfold Ttl.subIfIndex at h
  split_ifs at h with hbit hle
  · obtain ⟨value, -, h⟩ := bind_eq_ok.mp h
    cases h
    exact hle
  · cases h
  · cases h
    exact hpos

/-- The read of an address ends within the payload. -/
theorem subIpAddress_le {ip_addr : Option IpAddr} {pos' : ℕ} (hpos : pos ≤ obj_payload.length)
    (h : Ttl.subIpAddress c_type obj_payload pos = .ok (some (ip_addr, pos'))) :
    pos' ≤ obj_payload.length := by
  unfold Ttl.subIpAddress at h
  split_ifs at h with hbit hle
  · obtain ⟨afi, -, h⟩ := bind_eq_ok.mp h
    dsimp only at h
    split_ifs at h with hv4 hle4 hv6 hle6
    · obtain ⟨addr, -, h⟩ := bind_eq_ok.mp h
      cases h
      exact hle4
    · cases h
    · obtain ⟨addr, -, h⟩ := bind_eq_ok.mp h
      cases h
      exact hle6
    · cases h
    · cases h
  · cases h
  · cases h
    exact hpos

/-- The read of a name ends within the payload. -/
theorem subName_le {name : Option String} {pos' : ℕ} (hpos : pos ≤ obj_payload.length)
    (h : Ttl.subName c_type obj_payload pos = .ok (some (name, pos'))) : pos' ≤ obj_payload.length := by
  unfold Ttl.subName at h
  split_ifs at h with hbit hlt
  · obtain ⟨len, -, h⟩ := bind_eq_ok.mp h
    dsimp only at h
    split_ifs at h with hle
    · obtain ⟨raw_name, -, h⟩ := bind_eq_ok.mp h
      cases h
      exact hle.2
    · cases h
  · cases h
  · cases h
    exact hpos

/-- The parser of an interface object does not overflow. -/
theorem parseInterfaceInfo_eq (role : InterfaceRole) (hlen : obj_payload.length < 2^63) :
    parseInterfaceInfo role c_type obj_payload = Ttl.parseInterfaceInfo role c_type obj_payload := by
  unfold parseInterfaceInfo Ttl.parseInterfaceInfo
  rw [subIfIndex_eq hlen (Nat.zero_le _)]
  obtain ⟨index, hindex⟩ := subIfIndex_succeeds c_type obj_payload 0
  rw [hindex, ok_bind, ok_bind]
  obtain _ | ⟨if_index, pos⟩ := index
  · rfl
  have hpos := subIfIndex_le (Nat.zero_le _) hindex
  dsimp only
  rw [subIpAddress_eq hlen hpos]
  obtain ⟨addr, haddr⟩ := subIpAddress_succeeds c_type obj_payload pos
  rw [haddr, ok_bind, ok_bind]
  obtain _ | ⟨ip_addr, pos⟩ := addr
  · rfl
  have hpos := subIpAddress_le hpos haddr
  dsimp only
  rw [subName_eq hlen]
  obtain ⟨label, hlabel⟩ := subName_succeeds c_type obj_payload pos
  rw [hlabel, ok_bind, ok_bind]
  obtain _ | ⟨name, pos⟩ := label
  · rfl
  have hpos := subName_le hpos hlabel
  dsimp only
  rw [subMtu_eq hlen hpos]
  obtain ⟨last, hlast⟩ := subMtu_succeeds c_type obj_payload pos
  rw [hlast]
  cases last with
  | none => rfl
  | some mtu => rfl

/-- The parser of an object does not overflow. -/
theorem parseObject_eq (obj_class obj_type : UInt8) (acc : ExtensionObjects)
    (hlen : obj_payload.length < 2^63) :
    parseObject obj_class obj_type obj_payload acc =
      Ttl.parseObject obj_class obj_type obj_payload acc := by
  unfold parseObject Ttl.parseObject
  simp only [parseInterfaceInfo_eq _ hlen]
  rfl

end

/-- The loop over the objects is the walk over them. -/
theorem loop_objectBody {ext_header : List UInt8} (hlen : ext_header.length < 2^63) {fuel offset : ℕ}
    (acc : ExtensionObjects) (hoff : offset ≤ ext_header.length) :
    loop (objectBody ext_header) fuel (offset, acc) = parseObjects ext_header fuel offset acc := by
  induction fuel generalizing offset acc with
  | zero => rfl
  | succ fuel ih =>
    have hhead : addUsize offset 4 = .ok (offset + 4) := addUsize_ok (by omega)
    have hclass : addUsize offset 2 = .ok (offset + 2) := addUsize_ok (by omega)
    have htype : addUsize offset 3 = .ok (offset + 3) := addUsize_ok (by omega)
    unfold loop objectBody parseObjects
    dsimp only
    rw [hhead, hclass, htype, ok_bind]
    by_cases hroom : offset + 4 ≤ ext_header.length
    · rw [if_pos hroom, if_pos hroom]
      obtain ⟨obj_length, hlength⟩ := be16_succeeds (show offset + 1 < ext_header.length by omega)
      obtain ⟨obj_class, hobjClass⟩ := byte_succeeds (show offset + 2 < ext_header.length by omega)
      obtain ⟨obj_type, hobjType⟩ := byte_succeeds (show offset + 3 < ext_header.length by omega)
      have hle : obj_length.toNat < 2^16 := obj_length.toNat_lt
      have hend : addUsize offset obj_length.toNat = .ok (offset + obj_length.toNat) :=
        addUsize_ok (by omega)
      simp only [hlength, hobjClass, hobjType, hend, ok_bind, ite_or]
      by_cases hfour : obj_length.toNat < 4
      · rw [if_pos hfour, if_pos hfour]
        rfl
      by_cases hover : ext_header.length < offset + obj_length.toNat
      · rw [if_neg hfour, if_neg hfour, if_pos hover, if_pos hover]
        rfl
      -- The object has its four bytes of header and lies within the data, so that the walk goes on from its end.
      rw [if_neg hfour, if_neg hfour, if_neg hover, if_neg hover,
        slice_ok (by omega) (by omega), ok_bind, ok_bind, bind_assoc]
      have hpayload : ((ext_header.take (offset + obj_length.toNat)).drop (offset + 4)).length < 2^63 := by
        rw [List.length_drop, List.length_take]
        omega
      rw [parseObject_eq _ _ _ hpayload]
      refine bind_congr fun acc => ?_
      exact ih acc (by omega)
    · rw [if_neg hroom, if_neg hroom]
      rfl

/-- The start of the extensions is computed without an overflow. -/
theorem extensionStart_eq (icmp_length : UInt8) (is_ipv6 : Bool) :
    extensionStart icmp_length is_ipv6 = .ok (Ttl.extensionStart icmp_length is_ipv6) := by
  have hoctet : icmp_length.toNat < 2^8 := icmp_length.toNat_lt
  unfold extensionStart Ttl.extensionStart
  rw [mulUsize_ok (by omega), mulUsize_ok (by omega)]
  split_ifs
  · rfl
  · rfl
  · rfl

/-- The extensions start within the first four kilobytes. -/
theorem extensionStart_lt (icmp_length : UInt8) (is_ipv6 : Bool) :
    Ttl.extensionStart icmp_length is_ipv6 < 2^12 := by
  have hoctet : icmp_length.toNat < 2^8 := icmp_length.toNat_lt
  unfold Ttl.extensionStart minOriginalDatagram
  split_ifs
  · omega
  · omega
  · omega

/-- The parser of extensions does not overflow, and its loop ends as the recursion does. -/
theorem parseIcmpExtensions_eq (icmp_payload : List UInt8) (icmp_length : UInt8) (is_ipv6 : Bool)
    (hlen : icmp_payload.length < 2^63) :
    parseIcmpExtensions icmp_payload icmp_length is_ipv6 =
      Ttl.parseIcmpExtensions icmp_payload icmp_length is_ipv6 := by
  have hbound := extensionStart_lt icmp_length is_ipv6
  have hfour : addUsize (Ttl.extensionStart icmp_length is_ipv6) 4 =
      .ok (Ttl.extensionStart icmp_length is_ipv6 + 4) := addUsize_ok (by omega)
  unfold parseIcmpExtensions Ttl.parseIcmpExtensions
  dsimp only
  rw [extensionStart_eq, ok_bind, hfour, ok_bind]
  split_ifs with hshort
  · rfl
  · rw [dropFrom_ok (by omega), ok_bind, ok_bind]
    refine bind_congr fun first => ?_
    split_ifs
    · rfl
    · have hheader : (icmp_payload.drop (Ttl.extensionStart icmp_length is_ipv6)).length < 2^63 := by
        rw [List.length_drop]
        omega
      have hfirst : 4 ≤ (icmp_payload.drop (Ttl.extensionStart icmp_length is_ipv6)).length := by
        rw [List.length_drop]
        omega
      rw [loop_objectBody hheader _ hfirst]

/-! ## The IPv6 header chain -/

/-- The loop over the headers is the walk over them. -/
theorem loop_headerBody {ipv6_data : List UInt8} (hlen : ipv6_data.length < 2^63) {fuel offset : ℕ}
    (next_header : UInt8) (hoff : offset ≤ ipv6_data.length) :
    loop (headerBody ipv6_data) fuel (offset, next_header) =
      skipExtHeaders ipv6_data fuel offset next_header := by
  induction fuel generalizing offset next_header with
  | zero => rfl
  | succ fuel ih =>
    have hpair : addUsize offset 2 = .ok (offset + 2) := addUsize_ok (by omega)
    have hsecond : addUsize offset 1 = .ok (offset + 1) := addUsize_ok (by omega)
    unfold loop headerBody skipExtHeaders
    dsimp only
    rw [hpair, hsecond, ok_bind]
    split_ifs with hskip hshort
    · rfl
    · obtain ⟨next, hnext⟩ := byte_succeeds (show offset < ipv6_data.length by omega)
      obtain ⟨units, hunits⟩ := byte_succeeds (show offset + 1 < ipv6_data.length by omega)
      have hle : units.toNat < 2^8 := units.toNat_lt
      have hone : addUsize units.toNat 1 = .ok (units.toNat + 1) := addUsize_ok (by omega)
      have hbytes : mulUsize (units.toNat + 1) 8 = .ok ((units.toNat + 1) * 8) := mulUsize_ok (by omega)
      have hend : addUsize offset ((units.toNat + 1) * 8) = .ok (offset + (units.toNat + 1) * 8) :=
        addUsize_ok (by omega)
      simp only [hnext, hunits, hone, hbytes, hend, ok_bind]
      split_ifs with hext
      · rfl
      · exact ih next (by omega)
    · rfl
    · rfl

/-- The walk over extension headers does not overflow. -/
theorem skipIpv6ExtHeadersQuoted_eq {ipv6_data : List UInt8} (hlen : ipv6_data.length < 2^63) :
    skipIpv6ExtHeadersQuoted ipv6_data = Ttl.skipIpv6ExtHeadersQuoted ipv6_data := by
  unfold skipIpv6ExtHeadersQuoted Ttl.skipIpv6ExtHeadersQuoted
  split_ifs with hshort
  · rfl
  · refine bind_congr fun next_header => ?_
    exact loop_headerBody hlen next_header (by omega)

/-! ## Error payloads -/

variable {responder : IpAddr} {our_identifier : UInt16}

/-- What the parsers do with the numbers of an Echo message, they do with its `ProbeId`. -/
theorem echo_bind {α : Type} (echo : List UInt8) (k : ProbeId → Parse α) :
    (do
      let identifier ← be16 echo 4
      let sequence ← be16 echo 6
      if identifier = our_identifier then k (ProbeId.fromSequence sequence)
      else if 12 ≤ echo.length then
        match ← extractIdFromPayload (← dropFrom echo 8) our_identifier with
        | some (_, payload_seq) => k (ProbeId.fromSequence payload_seq)
        | none => .error .reject
      else .error .reject) = (echoProbeId echo our_identifier >>= k) := by
  unfold echoProbeId
  simp only [bind_assoc]
  refine bind_congr fun identifier => ?_
  refine bind_congr fun sequence => ?_
  split_ifs
  · rfl
  · rw [bind_assoc]
    refine bind_congr fun payload => ?_
    rw [bind_assoc]
    refine bind_congr fun ids => ?_
    cases ids with
    | none => rfl
    | some ids => rfl
  · rfl

section

variable {original_payload : List UInt8} (response : ProbeId × Option UInt16 → ParsedResponse)

/-- A quoted Echo Request. -/
theorem request_eq (echo_type : UInt8) (h : 8 ≤ original_payload.length) :
    (do
      if (← byte original_payload 0) ≠ echo_type then .error .reject
      else
        let identifier ← be16 original_payload 4
        let sequence ← be16 original_payload 6
        if identifier = our_identifier then return response (ProbeId.fromSequence sequence, none)
        else if 12 ≤ original_payload.length then
          match ← extractIdFromPayload (← dropFrom original_payload 8) our_identifier with
          | some (_, payload_seq) => return response (ProbeId.fromSequence payload_seq, none)
          | none => .error .reject
        else .error .reject) =
      (quotedEcho echo_type original_payload our_identifier >>= fun probe => return response probe) := by
  have hlong : ¬original_payload.length < 8 := by omega
  rw [quotedEcho, if_neg hlong, bind_assoc]
  refine bind_congr fun first => ?_
  by_cases hfirst : first ≠ echo_type
  · rw [if_pos hfirst, if_pos hfirst]
    rfl
  · rw [if_neg hfirst, if_neg hfirst, bind_assoc]
    exact echo_bind original_payload fun probe_id => return response (probe_id, none)

/-- A quoted TCP segment or UDP datagram. -/
theorem segment_eq {icmp_protocol protocol : UInt8} (echo_type : UInt8) (h : protocol ≠ icmp_protocol) :
    (if protocol = ipprotoTcp then
      if original_payload.length < 8 then .error .reject
      else do
        let src_port ← be16 original_payload 0
        let probe_id ← extractProbeIdFromTcp original_payload
        return response (probe_id, some src_port)
    else if protocol = ipprotoUdp then
      if original_payload.length < 8 + 6 then .error .reject
      else do
        let src_port ← be16 original_payload 0
        let udp_payload ← dropFrom original_payload 8
        let probe_id ← extractProbeIdFromUdpPayload udp_payload
        return response (probe_id, some src_port)
    else .error .reject) =
      (parseQuoted icmp_protocol echo_type protocol original_payload our_identifier >>=
        fun probe => return response probe) := by
  rw [parseQuoted, if_neg h]
  unfold quotedTcp quotedUdp
  split_ifs
  · rfl
  · rw [bind_assoc]
    refine bind_congr fun src_port => ?_
    rw [bind_assoc]
    rfl
  · rfl
  · rw [bind_assoc]
    refine bind_congr fun src_port => ?_
    rw [bind_assoc]
    refine bind_congr fun udp_payload => ?_
    rw [bind_assoc]
    rfl
  · rfl

end

/-- The parser of an ICMP error does not overflow. -/
theorem parseIcmpErrorPayloadV4WithMtu_eq {icmp_data : List UInt8} (response_type : IcmpResponseType)
    (mtu : Option UInt16) (hlen : icmp_data.length < 2^63) :
    parseIcmpErrorPayloadV4WithMtu icmp_data responder our_identifier response_type mtu =
      Ttl.parseIcmpErrorPayloadV4WithMtu icmp_data responder our_identifier response_type mtu := by
  unfold parseIcmpErrorPayloadV4WithMtu Ttl.parseIcmpErrorPayloadV4WithMtu
  split_ifs with hshort
  · rfl
  · have hquote : (icmp_data.drop 8).length = icmp_data.length - 8 := List.length_drop
    obtain ⟨first, hfirst⟩ := byte_succeeds (show 0 < (icmp_data.drop 8).length by omega)
    obtain ⟨hwords, hihl⟩ := headerLength_eq hfirst
    -- Four bits of words: no header is longer than 60 bytes, whatever the quote says.
    have hle := ipv4HeaderLength_le first
    have hend : addUsize (ipv4HeaderLength first) 8 = .ok (ipv4HeaderLength first + 8) :=
      addUsize_ok (by omega)
    have hpacket : ipv4Packet (icmp_data.drop 8) = .ok (icmp_data.drop 8) := if_neg (by omega)
    refine bind_congr fun icmp_length => ?_
    rw [dropFrom_ok (by omega), ok_bind, ok_bind, hpacket, ok_bind, hwords, ok_bind, hihl, ok_bind,
      hfirst, ok_bind]
    refine bind_congr fun orig_protocol => ?_
    refine bind_congr fun quoted_ttl => ?_
    refine bind_congr fun original_dest => ?_
    rw [hend, ok_bind]
    by_cases hcut : (icmp_data.drop 8).length < ipv4HeaderLength first + 8
    · rw [if_pos hcut, if_pos hcut]
    · have hpayload : 8 ≤ ((icmp_data.drop 8).drop (ipv4HeaderLength first)).length := by
        rw [List.length_drop]
        omega
      rw [if_neg hcut, if_neg hcut]
      rw [dropFrom_ok (by omega), ok_bind, ok_bind, ok_bind, parseIcmpExtensions_eq _ _ _ (by omega)]
      refine bind_congr fun exts => ?_
      by_cases hicmp : orig_protocol = ipprotoIcmp
      · rw [if_pos hicmp, parseQuoted, if_pos hicmp]
        exact request_eq _ 8 hpayload
      · rw [if_neg hicmp]
        exact segment_eq _ 8 hicmp

/-- The copy for datagram sockets. -/
theorem parseIcmpErrorPayloadV4Dgram_eq {icmp_data : List UInt8} (response_type : IcmpResponseType)
    (mtu : Option UInt16) (hlen : icmp_data.length < 2^63) :
    parseIcmpErrorPayloadV4Dgram icmp_data responder our_identifier response_type mtu =
      Ttl.parseIcmpErrorPayloadV4WithMtu icmp_data responder our_identifier response_type mtu :=
  parseIcmpErrorPayloadV4WithMtu_eq response_type mtu hlen

/-- The parser of an ICMPv6 error does not overflow. -/
theorem parseIcmpErrorPayloadV6Dgram_eq {icmp_data : List UInt8} (response_type : IcmpResponseType)
    (mtu : Option UInt16) (hlen : icmp_data.length < 2^63) :
    parseIcmpErrorPayloadV6Dgram icmp_data responder our_identifier response_type mtu =
      Ttl.parseIcmpErrorPayloadV6Dgram icmp_data responder our_identifier response_type mtu := by
  unfold parseIcmpErrorPayloadV6Dgram Ttl.parseIcmpErrorPayloadV6Dgram
  split_ifs with hshort
  · rfl
  · have hquote : (icmp_data.drop 8).length = icmp_data.length - 8 := List.length_drop
    refine bind_congr fun icmp_length => ?_
    rw [dropFrom_ok (by omega), ok_bind, ok_bind]
    refine bind_congr fun next_header => ?_
    refine bind_congr fun quoted_ttl => ?_
    refine bind_congr fun original_dest => ?_
    rw [skipIpv6ExtHeadersQuoted_eq (by omega)]
    refine bind_congr fun skipped => ?_
    dsimp only
    by_cases hcut : (icmp_data.drop 8).length < (skipped.getD (ipv6HeaderLen, next_header)).1
    · rw [if_pos hcut, if_pos hcut]
    · rw [if_neg hcut, if_neg hcut]
      refine bind_congr fun original_payload => ?_
      rw [ok_bind, parseIcmpExtensions_eq _ _ _ (by omega)]
      refine bind_congr fun exts => ?_
      by_cases hicmp : (skipped.getD (ipv6HeaderLen, next_header)).2 = ipprotoIcmpv6
      · rw [if_pos hicmp, parseQuoted, if_pos hicmp]
        -- Here the source checks the length of the Echo Request once more, as the chain may end anywhere.
        by_cases hpayload : original_payload.length < 8
        · rw [if_pos hpayload, quotedEcho, if_pos hpayload]
          rfl
        · rw [if_neg hpayload]
          exact request_eq _ 128 (by omega)
      · rw [if_neg hicmp]
        exact segment_eq _ 128 hicmp

/-! ## Messages -/

/-- An Echo Reply. -/
theorem echoReply_eq (icmp_data : List UInt8) :
    (do
      let identifier ← be16 icmp_data 4
      let sequence ← be16 icmp_data 6
      if identifier = our_identifier then echoResponse icmp_data responder sequence
      else if 12 ≤ icmp_data.length then
        match ← extractIdFromPayload (← dropFrom icmp_data 8) our_identifier with
        | some (_, payload_seq) => echoResponse icmp_data responder payload_seq
        | none => .error .reject
      else .error .reject) = parseEchoReply icmp_data responder our_identifier := by
  unfold parseEchoReply
  rw [← echo_bind]
  rfl

/-- The longest Echo Reply whose words always have a sum of 32 bits: its first word is below 256. -/
def maxEchoReply : ℕ := 131075

/-- The ICMP message is no Echo Reply, or not too long for the sum of its words. -/
def EchoReplyFits (icmp_data : List UInt8) : Prop :=
  icmp_data.head? = some 0 → icmp_data.length ≤ maxEchoReply

/-- The sum over an Echo Reply that is short enough fits. -/
theorem sumWords_lt {icmp_data : List UInt8} (hfits : EchoReplyFits icmp_data)
    (htype : byte icmp_data 0 = .ok 0) (hlen : 8 ≤ icmp_data.length) : sumWords icmp_data < 2^32 := by
  obtain _ | ⟨first, _ | ⟨code, rest⟩⟩ := icmp_data
  · cases hlen
  · rw [List.length_singleton] at hlen
    omega
  · -- The type is 0, so that the first word is the code alone, and this is what the bound leaves room for.
    obtain rfl : first = 0 := Except.ok.inj htype
    have hle := hfits rfl
    have hrest := sumWords_le rest
    have hcode : code.toNat < 2^8 := code.toNat_lt
    have hfirst : (fromBe16 0 code).toNat = code.toNat := by
      rw [toNat_fromBe16]
      exact Nat.zero_add _
    rw [List.length_cons, List.length_cons, maxEchoReply] at hle
    rw [sumWords, hfirst]
    omega

/-- The parser of a datagram socket does not overflow on it. -/
theorem parseIcmpResponseV4Dgram_eq {icmp_data : List UInt8} (hlen : icmp_data.length < 2^63)
    (hfits : EchoReplyFits icmp_data) :
    parseIcmpResponseV4Dgram icmp_data responder our_identifier =
      Ttl.parseIcmpResponseV4Dgram icmp_data responder our_identifier := by
  unfold parseIcmpResponseV4Dgram Ttl.parseIcmpResponseV4Dgram
  by_cases hshort : icmp_data.length < 8
  · rw [if_pos hshort, if_pos hshort]
  rw [if_neg hshort, if_neg hshort]
  obtain ⟨icmp_type, htype⟩ := byte_succeeds (show 0 < icmp_data.length by omega)
  rw [htype, ok_bind, ok_bind]
  refine bind_congr fun icmp_code => ?_
  by_cases hreply : icmp_type = 0
  · -- Only here a checksum is validated, and the length of the message matters.
    subst hreply
    rw [if_pos rfl, if_pos rfl, validateIcmpChecksum_eq hlen (sumWords_lt hfits htype (by omega)), ok_bind]
    by_cases hvalid : Ttl.validateIcmpChecksum icmp_data = true
    · rw [if_pos hvalid, if_pos hvalid]
      exact echoReply_eq icmp_data
    · rw [if_neg hvalid, if_neg hvalid]
  rw [if_neg hreply, if_neg hreply]
  by_cases hexceeded : icmp_type = 11
  · rw [if_pos hexceeded, if_pos hexceeded]
    exact parseIcmpErrorPayloadV4Dgram_eq _ _ hlen
  rw [if_neg hexceeded, if_neg hexceeded]
  by_cases hunreachable : icmp_type = 3
  · rw [if_pos hunreachable, if_pos hunreachable]
    unfold fragNeededMtu
    split_ifs
    · rw [bind_assoc]
      refine bind_congr fun mtu_val => ?_
      exact parseIcmpErrorPayloadV4Dgram_eq _ _ hlen
    · exact parseIcmpErrorPayloadV4Dgram_eq _ _ hlen
  · rw [if_neg hunreachable, if_neg hunreachable]

/-- The parser of ICMPv6 validates no checksum, and does not overflow. -/
theorem parseIcmpResponseV6Dgram_eq {icmp_data : List UInt8} (hlen : icmp_data.length < 2^63) :
    parseIcmpResponseV6Dgram icmp_data responder our_identifier =
      Ttl.parseIcmpResponseV6Dgram icmp_data responder our_identifier := by
  unfold parseIcmpResponseV6Dgram Ttl.parseIcmpResponseV6Dgram
  by_cases hshort : icmp_data.length < 8
  · rw [if_pos hshort, if_pos hshort]
  rw [if_neg hshort, if_neg hshort]
  refine bind_congr fun icmp_type => ?_
  refine bind_congr fun icmp_code => ?_
  by_cases hreply : icmp_type = 129
  · rw [if_pos hreply, if_pos hreply]
    exact echoReply_eq icmp_data
  · rw [if_neg hreply, if_neg hreply]
    simp only [parseIcmpErrorPayloadV6Dgram_eq _ _ hlen]

/-- The ICMP message in what a socket delivers. -/
def icmpMessage (data : List UInt8) (responder : IpAddr) (is_dgram : Bool) : List UInt8 :=
  if is_dgram ∨ responder.isIpv6 then data else data.drop (ipv4HeaderLength (data.headD 0))

/-- No parser overflows, where an Echo Reply over IPv4 is short enough. -/
theorem parseIcmpResponse_eq {data : List UInt8} {is_dgram : Bool} (hlen : data.length < 2^63)
    (hfits : responder.isIpv6 = false → EchoReplyFits (icmpMessage data responder is_dgram)) :
    parseIcmpResponse data responder our_identifier is_dgram =
      Ttl.parseIcmpResponse data responder our_identifier is_dgram := by
  unfold parseIcmpResponse Ttl.parseIcmpResponse
  unfold icmpMessage at hfits
  split_ifs with hempty hdgram hv6 hv6
  · rfl
  · exact parseIcmpResponseV6Dgram_eq hlen
  · rw [if_pos (.inl hdgram)] at hfits
    exact parseIcmpResponseV4Dgram_eq hlen (hfits (Bool.eq_false_iff.mpr hv6))
  · exact parseIcmpResponseV6Dgram_eq hlen
  · rw [if_neg (not_or.mpr ⟨hdgram, hv6⟩)] at hfits
    by_cases hpacket : data.length < 20
    · rw [parseIcmpResponseV4, Ttl.parseIcmpResponseV4, ipv4Packet, if_pos hpacket, if_pos hpacket, reject_bind]
    obtain ⟨first, hfirst⟩ := byte_succeeds (show 0 < data.length by omega)
    have hhead : data.headD 0 = first := by
      cases data with
      | nil => cases hfirst
      | cons b rest => exact Except.ok.inj hfirst
    -- Behind the header of a raw packet, the parser is the one of datagrams.
    rw [hhead] at hfits
    rw [parseIcmpResponseV4_eq _ _ hfirst (by omega), Ttl.parseIcmpResponseV4, if_neg hpacket, hfirst, ok_bind]
    dsimp only
    by_cases hshort : data.length < ipv4HeaderLength first + 8
    · rw [if_pos hshort, if_pos hshort]
    · have hdrop : (data.drop (ipv4HeaderLength first)).length < 2^63 := by
        rw [List.length_drop]
        omega
      rw [if_neg hshort, if_neg hshort, dropFrom_ok (by omega), ok_bind]
      exact parseIcmpResponseV4Dgram_eq hdrop (hfits (Bool.eq_false_iff.mpr hv6))

/-! ## The loops advance -/

/-- Every round of the sum goes on by two bytes. -/
theorem sumBody_advances (skip : Option ℕ) (data : List UInt8) :
    Advances (sumBody skip data) Prod.fst data.length := by
  rintro ⟨i, sum⟩ s' h
  obtain ⟨next, hnext, h⟩ := bind_eq_ok.mp h
  obtain rfl := fit_eq hnext
  split_ifs at h with hroom
  · obtain ⟨sum', -, h⟩ := bind_eq_ok.mp h
    obtain ⟨i', hi, h⟩ := bind_eq_ok.mp h
    obtain rfl := fit_eq hi
    cases h
    exact ⟨Nat.lt_add_of_pos_right Nat.zero_lt_two, hroom⟩
  · cases h

/-- The carries are folded into a smaller sum. -/
theorem foldBody_decreases {sum sum' : ℕ} (h : foldBody sum = .ok (.again sum')) : sum' < sum := by
  unfold foldBody at h
  split_ifs at h with hcarry
  · obtain ⟨folded, hfolded, h⟩ := bind_eq_ok.mp h
    obtain rfl := fit_eq hfolded
    cases h
    omega
  · cases h

/-- Every round over the objects goes on by a header at least. -/
theorem objectBody_advances (ext_header : List UInt8) :
    Advances (objectBody ext_header) Prod.fst ext_header.length := by
  rintro ⟨offset, acc⟩ s' h
  obtain ⟨next, hnext, h⟩ := bind_eq_ok.mp h
  dsimp only at h
  split_ifs at h with hroom
  · obtain ⟨obj_length, -, h⟩ := bind_eq_ok.mp h
    obtain ⟨second, -, h⟩ := bind_eq_ok.mp h
    obtain ⟨obj_class, -, h⟩ := bind_eq_ok.mp h
    obtain ⟨third, -, h⟩ := bind_eq_ok.mp h
    obtain ⟨obj_type, -, h⟩ := bind_eq_ok.mp h
    split_ifs at h with hfour
    · cases h
    obtain ⟨stop, hstop, h⟩ := bind_eq_ok.mp h
    obtain rfl := fit_eq hstop
    split_ifs at h with hover
    · cases h
    obtain ⟨start, -, h⟩ := bind_eq_ok.mp h
    obtain ⟨last, -, h⟩ := bind_eq_ok.mp h
    obtain ⟨obj_payload, -, h⟩ := bind_eq_ok.mp h
    obtain ⟨acc', -, h⟩ := bind_eq_ok.mp h
    obtain ⟨offset', hoffset, h⟩ := bind_eq_ok.mp h
    obtain rfl := fit_eq hoffset
    cases h
    dsimp only
    omega
  · cases h

/-- Every round over the extension headers goes on by eight bytes at least. -/
theorem headerBody_advances (ipv6_data : List UInt8) :
    Advances (headerBody ipv6_data) Prod.fst ipv6_data.length := by
  rintro ⟨offset, next_header⟩ s' h
  unfold headerBody at h
  dsimp only at h
  split_ifs at h with hskip hstop
  · obtain ⟨pair, -, h⟩ := bind_eq_ok.mp h
    split_ifs at h with hshort
    · cases h
    obtain ⟨next, -, h⟩ := bind_eq_ok.mp h
    obtain ⟨second, -, h⟩ := bind_eq_ok.mp h
    obtain ⟨units, -, h⟩ := bind_eq_ok.mp h
    obtain ⟨count, hcount, h⟩ := bind_eq_ok.mp h
    obtain rfl := fit_eq hcount
    obtain ⟨ext_len, hlength, h⟩ := bind_eq_ok.mp h
    obtain rfl := fit_eq hlength
    obtain ⟨offset', hoffset, h⟩ := bind_eq_ok.mp h
    obtain rfl := fit_eq hoffset
    split_ifs at h with hext
    · cases h
    cases h
    dsimp only
    omega
  · cases h
  · cases h

/-- Each loop of the parsers advances on each data it may be given. -/
structure LoopsAdvance : Prop where
  words : ∀ data, Advances (sumBody none data) Prod.fst data.length
  carries : ∀ sum sum', foldBody sum = .ok (.again sum') → sum' < sum
  objects : ∀ ext_header, Advances (objectBody ext_header) Prod.fst ext_header.length
  headers : ∀ ipv6_data, Advances (headerBody ipv6_data) Prod.fst ipv6_data.length

/-- No loop of the parsers is endless. -/
theorem loopsAdvance : LoopsAdvance where
  words := sumBody_advances none
  carries := fun _ _ => foldBody_decreases
  objects := objectBody_advances
  headers := headerBody_advances

end Checked

/-- **Parsing is safe:** whatever bytes a socket delivers, the parser returns a response or rejects them, with no
index out of range and no sum or product that overflows, and its loops advance. An Echo Reply over IPv4 must not be
too long for its checksum. -/
theorem parseIcmpResponse_noPanic {data : List UInt8} (responder : IpAddr) (our_identifier : UInt16)
    (is_dgram : Bool) (hlen : data.length < 2^63)
    (hfits : responder.isIpv6 = false →
      Checked.EchoReplyFits (Checked.icmpMessage data responder is_dgram)) :
    Safe (Checked.parseIcmpResponse data responder our_identifier is_dgram) ∧ Checked.LoopsAdvance := by
  rw [Checked.parseIcmpResponse_eq hlen hfits]
  exact ⟨parseIcmpResponse_safe our_identifier responder data is_dgram, Checked.loopsAdvance⟩

/-- An Echo Reply of 131075 bytes is parsed. -/
theorem parseIcmpResponse_noPanic_longest :
    Safe (Checked.parseIcmpResponse (0 :: List.replicate 131074 0xFF) (.V4 ⟨192, 0, 2, 1⟩) 7 true) ∧
      Checked.LoopsAdvance := by
  have hlength : ((0 : UInt8) :: List.replicate 131074 0xFF).length = Checked.maxEchoReply := by
    rw [List.length_cons, List.length_replicate, Checked.maxEchoReply]
  refine parseIcmpResponse_noPanic _ _ _ ?_ fun _ _ => ?_
  · rw [hlength, Checked.maxEchoReply]
    decide
  · exact hlength.le

/-- The sum over a message of ones. -/
theorem sumWords_replicate (n : ℕ) : sumWords (List.replicate (2 * n) 0xFF) = n * 65535 := by
  induction n with
  | zero => rfl
  | succ n ih =>
    rw [Nat.mul_succ, List.replicate_succ, List.replicate_succ, sumWords, ih, Nat.succ_mul, Nat.add_comm]
    rfl

/-- One byte more can be too much: the sum of the words of this Echo Reply is `2^32`. -/
theorem parseIcmpResponse_panics :
    Checked.parseIcmpResponse (0 :: 1 :: List.replicate (2 * 65537) 0xFF) (.V4 ⟨192, 0, 2, 1⟩) 7 true =
      .error .panic := by
  have hlength : (0 :: 1 :: List.replicate (2 * 65537) (0xFF : UInt8)).length = 131076 := by
    rw [List.length_cons, List.length_cons, List.length_replicate]
  have hsum : sumWords (0 :: 1 :: List.replicate (2 * 65537) 0xFF) = 2^32 := by
    rw [sumWords, sumWords_replicate]
    rfl
  have hcheck := Checked.validateIcmpChecksum_panic (by rw [hlength]; decide) hsum.ge (by rw [hlength]; decide)
  have hshort : ¬(0 :: 1 :: List.replicate (2 * 65537) (0xFF : UInt8)).length < 8 := by
    rw [hlength]
    decide
  have htype : byte (0 :: 1 :: List.replicate (2 * 65537) 0xFF) 0 = .ok 0 := rfl
  have hcode : byte (0 :: 1 :: List.replicate (2 * 65537) 0xFF) 1 = .ok 1 := rfl
  rw [Checked.parseIcmpResponse, List.isEmpty_cons, if_neg Bool.false_ne_true, if_pos rfl,
    if_neg (by exact Bool.false_ne_true), Checked.parseIcmpResponseV4Dgram, if_neg hshort, htype, ok_bind,
    hcode, ok_bind, if_pos rfl, hcheck, panic_bind]

end Ttl
