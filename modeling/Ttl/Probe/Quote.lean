import Ttl.Probe.Correlate
import Ttl.State.Session
import Mathlib.Data.Fin.Basic

/-!
# ICMP errors on the wire

The messages that the parser is for, as a router writes them: an ICMP error header, the IP header of the
packet that it quotes, and what follows it. An IPv4 header may have options and an IPv6 header a chain of
extension headers, each of which carries its own length as an invariant. The raw IPv4 socket delivers
the message behind an IPv4 header of its own.

`parseIcmpResponse_error` is the meaning of the parser on these messages: it reads the quoted transport
header wherever the headers before it put it, and takes the rest of the response from the fields of the
headers, for both families and both kinds of sockets.
-/

namespace Ttl

open Bytes

/-! ## IP headers -/

/-- An IPv4 header, up to the protocol that follows. -/
structure Ipv4Header where
  tos : UInt8
  total_len : UInt16
  identification : UInt16
  frag_off : UInt16
  ttl : UInt8
  checksum : UInt16
  src : Ipv4Addr
  dst : Ipv4Addr
  /-- The length of the options, in words. -/
  words : Fin 11
  options : List UInt8
  options_length : options.length = 4 * words

/-- The header before a `protocol`. -/
def Ipv4Header.bytes (h : Ipv4Header) (protocol : UInt8) : List UInt8 :=
  [0x45 + UInt8.ofNat h.words, h.tos] ++ be16Bytes h.total_len ++ be16Bytes h.identification ++
    be16Bytes h.frag_off ++ [h.ttl, protocol] ++ be16Bytes h.checksum ++ h.src.octets ++
    h.dst.octets ++ h.options

/-- A header without options. -/
def Ipv4Header.plain (tos : UInt8) (total_len identification frag_off : UInt16) (ttl : UInt8)
    (checksum : UInt16) (src dst : Ipv4Addr) : Ipv4Header :=
  ⟨tos, total_len, identification, frag_off, ttl, checksum, src, dst, 0, [], rfl⟩

/-- The fixed part of an IPv6 header. -/
structure Ipv6Header where
  /-- Version, traffic class and flow label. -/
  class_flow : UInt32
  payload_len : UInt16
  hop_limit : UInt8
  src : Ipv6Addr
  dst : Ipv6Addr

/-- The fixed part before `next_header`. -/
def Ipv6Header.bytes (h : Ipv6Header) (next_header : UInt8) : List UInt8 :=
  be32Bytes h.class_flow ++ be16Bytes h.payload_len ++ [next_header, h.hop_limit] ++ h.src.octets ++
    h.dst.octets

/-- A Hop-by-Hop, Routing or Destination Options header. -/
structure ExtHeader where
  /-- Its own protocol number. -/
  kind : UInt8
  /-- Its length in units of eight bytes, without the first unit. -/
  units : UInt8
  body : List UInt8
  kind_mem : kind ∈ ipv6Skipped
  body_length : body.length = 6 + units.toNat * 8

/-- The protocol number of what a chain begins with, when `protocol` follows the chain. -/
def chainKind : List ExtHeader → UInt8 → UInt8
  | [], protocol => protocol
  | h :: _, _ => h.kind

/-- The chain before a `protocol`. -/
def chainBytes : List ExtHeader → UInt8 → List UInt8
  | [], _ => []
  | h :: chain, protocol => [chainKind chain protocol, h.units] ++ h.body ++ chainBytes chain protocol

/-- The headers of a quoted packet. -/
inductive IpHeader where
  | v4 (header : Ipv4Header)
  | v6 (header : Ipv6Header) (chain : List ExtHeader)

/-- The length of a chain. -/
def chainLength (chain : List ExtHeader) : ℕ := (chain.map fun h => (h.units.toNat + 1) * 8).sum

namespace IpHeader

/-- Their bytes before a transport `protocol`. -/
def bytes : IpHeader → UInt8 → List UInt8
  | v4 header, protocol => header.bytes protocol
  | v6 header chain, protocol => header.bytes (chainKind chain protocol) ++ chainBytes chain protocol

/-- The address family. -/
def isIpv6 : IpHeader → Bool
  | v4 _ => false
  | v6 _ _ => true

/-- The TTL or hop limit. -/
def ttl : IpHeader → UInt8
  | v4 header => header.ttl
  | v6 header _ => header.hop_limit

/-- The destination. -/
def dst : IpHeader → IpAddr
  | v4 header => .V4 header.dst
  | v6 header _ => .V6 header.dst

/-- What follows is a transport header: in IPv6 not one more header, nor nothing. -/
def BeforeTransport (ip : IpHeader) (protocol : UInt8) : Prop :=
  ip.isIpv6 → protocol ∉ ipv6Skipped ∧ protocol ∉ ipv6Stopped

end IpHeader

/-- The protocol number of ICMP in a family. -/
def icmpProtocol (ipv6 : Bool) : UInt8 := if ipv6 then ipprotoIcmpv6 else ipprotoIcmp

/-- The protocol number of a kind of probe in a family. -/
def ProbeProtocol.number (ipv6 : Bool) : ProbeProtocol → UInt8
  | .Icmp => icmpProtocol ipv6
  | .Udp => ipprotoUdp
  | .Tcp => ipprotoTcp

/-- The type of an Echo Request in a family. -/
def echoType (ipv6 : Bool) : UInt8 := if ipv6 then 128 else 8

/-! ## Error messages -/

/-- The errors that quote a probe. `TooBig` is Fragmentation Needed in IPv4, whose code is 4. -/
inductive IcmpError where
  | TimeExceeded (code : UInt8)
  | DestUnreachable (code : UInt8)
  | TooBig (code : UInt8)

/-- Type and code in a family. -/
def IcmpError.typeCode (ipv6 : Bool) : IcmpError → UInt8 × UInt8
  | .TimeExceeded code => (if ipv6 then 3 else 11, code)
  | .DestUnreachable code => (if ipv6 then 1 else 3, code)
  | .TooBig code => if ipv6 then (2, code) else (3, 4)

/-- What the error is to the receiver. -/
def IcmpError.responseType (ipv6 : Bool) : IcmpError → IcmpResponseType
  | .TimeExceeded code => .TimeExceeded code
  | .DestUnreachable code => .DestUnreachable code
  | .TooBig _ => if ipv6 then .PacketTooBig else .DestUnreachable 4

/-- The errors that report an MTU. -/
def IcmpError.hasMtu (ipv6 : Bool) : IcmpError → Bool
  | .TimeExceeded _ => false
  | .DestUnreachable code => ! ipv6 && code = 4
  | .TooBig _ => true

/-- The ICMP header of an error. -/
structure ErrorHeader where
  error : IcmpError
  checksum : UInt16
  /-- Bytes 4 to 7, with the MTU and the length of the quote. -/
  rest : UInt32

namespace ErrorHeader

/-- The header in a family. -/
def bytes (ipv6 : Bool) (h : ErrorHeader) : List UInt8 :=
  [(h.error.typeCode ipv6).1, (h.error.typeCode ipv6).2] ++ be16Bytes h.checksum ++ be32Bytes h.rest

/-- The MTU field, of 16 bits in IPv4 and 32 in IPv6. -/
def mtuField (ipv6 : Bool) (h : ErrorHeader) : ℕ :=
  if ipv6 then h.rest.toNat else h.rest.toUInt16.toNat

/-- The MTU that the error reports, when it reports one and it is in range. -/
def mtu (ipv6 : Bool) (h : ErrorHeader) : Option UInt16 :=
  if h.error.hasMtu ipv6 ∧ 0 < h.mtuField ipv6 ∧ h.mtuField ipv6 ≤ 65535 then
    some (UInt16.ofNat (h.mtuField ipv6))
  else none

end ErrorHeader

/-- What a socket delivers of an error message with its `quote`. A raw IPv4 socket delivers the `outer`
header too. -/
def delivered (outer : Ipv4Header) (is_dgram ipv6 : Bool) (header : ErrorHeader) (quote : List UInt8) :
    List UInt8 :=
  let message := header.bytes ipv6 ++ quote
  if is_dgram ∨ ipv6 then message else outer.bytes ipprotoIcmp ++ message

/-! ## The parser on the headers -/

/-- A header is 20 bytes and its options. -/
theorem Ipv4Header.length_bytes (h : Ipv4Header) (protocol : UInt8) :
    (h.bytes protocol).length = 20 + 4 * h.words := by
  have hoptions := h.options_length
  simp only [bytes, be16Bytes, Ipv4Addr.octets, List.length_append, List.length_cons,
    List.length_nil, hoptions]

/-- The header of an ICMP error has eight bytes. -/
theorem ErrorHeader.length_bytes (ipv6 : Bool) (icmp : ErrorHeader) :
    (icmp.bytes ipv6).length = 8 := rfl

/-- The low nibble of the first byte is the length in words. -/
theorem ipv4HeaderLength_first (words : Fin 11) :
    ipv4HeaderLength (0x45 + UInt8.ofNat words) = 20 + 4 * words := by
  revert words
  decide

/-- An IPv6 header has 40. -/
theorem Ipv6Header.length_bytes (h : Ipv6Header) (next_header : UInt8) :
    (h.bytes next_header).length = 40 := rfl

/-- A chain has the lengths of its headers. -/
theorem length_chainBytes (chain : List ExtHeader) (protocol : UInt8) :
    (chainBytes chain protocol).length = chainLength chain := by
  induction chain with
  | nil => rfl
  | cons h chain ih =>
    have hbody := h.body_length
    simp only [chainBytes, List.length_append, List.length_cons, List.length_nil, ih, hbody,
      chainLength, List.map_cons, List.sum_cons]
    omega

/-- An extension header takes at least eight bytes. -/
theorem length_le_chainLength (chain : List ExtHeader) : chain.length ≤ chainLength chain := by
  induction chain with
  | nil => exact le_rfl
  | cons h chain ih =>
    simp only [chainLength, List.map_cons, List.sum_cons, List.length_cons] at ih ⊢
    omega

/-- The walk over a well-formed chain ends at the transport header, whatever follows. -/
theorem skipExtHeaders_chain {protocol : UInt8} (hskip : protocol ∉ ipv6Skipped)
    (hstop : protocol ∉ ipv6Stopped) (chain : List ExtHeader) (header body : List UInt8) {fuel : ℕ}
    (hfuel : chain.length < fuel) :
    skipExtHeaders (header ++ (chainBytes chain protocol ++ body)) fuel header.length
      (chainKind chain protocol) =
      .ok (some (header.length + (chainBytes chain protocol).length, protocol)) := by
  induction chain generalizing header fuel with
  | nil =>
    obtain ⟨fuel, rfl⟩ := Nat.exists_eq_succ_of_ne_zero (Nat.ne_of_gt hfuel)
    rw [skipExtHeaders, chainKind, if_neg hskip, if_neg hstop]
    rfl
  | cons h chain ih =>
    obtain ⟨fuel, rfl⟩ := Nat.exists_eq_succ_of_ne_zero (Nat.ne_of_gt (Nat.zero_lt_of_lt hfuel))
    have hbody := h.body_length
    -- The header of this step, and the data with it moved to the part that is behind.
    have hdata : header ++ (chainBytes (h :: chain) protocol ++ body) =
        (header ++ ([chainKind chain protocol, h.units] ++ h.body)) ++
          (chainBytes chain protocol ++ body) := by
      simp only [chainBytes, List.append_assoc]
    have hlen : (header ++ ([chainKind chain protocol, h.units] ++ h.body)).length =
        header.length + (h.units.toNat + 1) * 8 := by
      simp only [List.length_append, List.length_cons, List.length_nil, hbody]
      omega
    have hnext : byte (header ++ (chainBytes (h :: chain) protocol ++ body)) header.length =
        .ok (chainKind chain protocol) :=
      byte_append_add header _ 0
    have hunits : byte (header ++ (chainBytes (h :: chain) protocol ++ body)) (header.length + 1) =
        .ok h.units :=
      byte_append_add header _ 1
    have hle : header.length + (h.units.toNat + 1) * 8 ≤
        (header ++ (chainBytes (h :: chain) protocol ++ body)).length := by
      rw [hdata, List.length_append, hlen]
      omega
    have hsum : header.length + (h.units.toNat + 1) * 8 + (chainBytes chain protocol).length =
        header.length + (chainBytes (h :: chain) protocol).length := by
      simp only [chainBytes, List.length_append, List.length_cons, List.length_nil, hbody]
      omega
    -- The walk reads both fields, jumps over the header, and goes on with the rest of the chain.
    rw [skipExtHeaders, chainKind, if_pos h.kind_mem, if_neg (by omega), hnext, ok_bind, hunits,
      ok_bind]
    dsimp only
    rw [if_neg (by omega), hdata, ← hlen, ih _ (by simpa using hfuel), hlen, hsum]

/-- The walk over the headers of a quoted IPv6 packet. -/
theorem skipIpv6ExtHeadersQuoted_bytes {protocol : UInt8} (hskip : protocol ∉ ipv6Skipped)
    (hstop : protocol ∉ ipv6Stopped) (header : Ipv6Header) (chain : List ExtHeader)
    (body : List UInt8) :
    skipIpv6ExtHeadersQuoted (header.bytes (chainKind chain protocol) ++
      (chainBytes chain protocol ++ body)) =
      .ok (some (ipv6HeaderLen + (chainBytes chain protocol).length, protocol)) := by
  have hlen := header.length_bytes (chainKind chain protocol)
  have hchain := length_le_chainLength chain
  have hbytes := length_chainBytes chain protocol
  have hnext : byte (header.bytes (chainKind chain protocol) ++
      (chainBytes chain protocol ++ body)) 6 = .ok (chainKind chain protocol) := rfl
  unfold skipIpv6ExtHeadersQuoted ipv6HeaderLen
  rw [if_neg (by rw [List.length_append]; omega), hnext, ok_bind, ← hlen]
  exact skipExtHeaders_chain hskip hstop chain _ body (by rw [List.length_append, List.length_append]; omega)

/-- What a quoted transport header identifies, in the family of the headers before it. -/
def IpHeader.quoted (ip : IpHeader) (protocol : UInt8) (body : List UInt8) (our_identifier : UInt16) :
    Parse (ProbeId × Option UInt16) :=
  parseQuoted (icmpProtocol ip.isIpv6) (echoType ip.isIpv6) protocol body our_identifier

/-- Each kind of probe has its own way to identify a quoted transport header. -/
theorem IpHeader.quoted_number (ip : IpHeader) (kind : ProbeProtocol) (body : List UInt8)
    (our_identifier : UInt16) :
    ip.quoted (kind.number ip.isIpv6) body our_identifier =
      match kind with
      | .Icmp => quotedEcho (echoType ip.isIpv6) body our_identifier
      | .Udp => quotedUdp body
      | .Tcp => quotedTcp body := by
  unfold quoted parseQuoted
  generalize ip.isIpv6 = ipv6
  cases kind <;> cases ipv6 <;> rfl

/-- Nothing else identifies one. -/
theorem IpHeader.exists_number_of_quoted {ip : IpHeader} {protocol : UInt8} {body : List UInt8}
    {our_identifier : UInt16} {probe : ProbeId × Option UInt16}
    (h : ip.quoted protocol body our_identifier = .ok probe) :
    ∃ kind : ProbeProtocol, protocol = kind.number ip.isIpv6 := by
  unfold quoted parseQuoted at h
  split_ifs at h with hicmp htcp hudp
  · exact ⟨.Icmp, hicmp⟩
  · exact ⟨.Tcp, htcp⟩
  · exact ⟨.Udp, hudp⟩

/-- A transport header that is cut below eight bytes identifies nothing. -/
theorem parseQuoted_short (icmp_protocol echo_type protocol : UInt8) {body : List UInt8}
    (h : body.length < 8) (our_identifier : UInt16) :
    parseQuoted icmp_protocol echo_type protocol body our_identifier = .error .reject := by
  unfold parseQuoted quotedEcho quotedTcp quotedUdp
  rw [if_pos h, if_pos h, if_pos (by omega : body.length < 8 + 6)]
  split_ifs <;> rfl

/-- The parser on an IPv4 error payload. -/
theorem parseIcmpErrorPayloadV4WithMtu_eq (icmp : ErrorHeader) (header : Ipv4Header)
    (protocol : UInt8) (body : List UInt8) (responder : IpAddr)
    (our_identifier : UInt16) (response_type : IcmpResponseType) (mtu : Option UInt16) :
    ∃ exts, parseIcmpErrorPayloadV4WithMtu (icmp.bytes false ++ (header.bytes protocol ++ body))
        responder our_identifier response_type mtu = do
      let probe ← (IpHeader.v4 header).quoted protocol body our_identifier
      return errorResponse responder response_type mtu header.ttl (.V4 header.dst) exts probe := by
  have hlen := header.length_bytes protocol
  have hquote : (header.bytes protocol ++ body).length = 20 + 4 * header.words + body.length := by
    rw [List.length_append, hlen]
  obtain ⟨exts, hexts⟩ := parseIcmpExtensions_succeeds (header.bytes protocol ++ body)
    (icmp.rest >>> 16).toUInt16.toUInt8 false
  refine ⟨exts, ?_⟩
  have hlength : byte (icmp.bytes false ++ (header.bytes protocol ++ body)) 5 =
      .ok (icmp.rest >>> 16).toUInt16.toUInt8 := rfl
  have hfirst : byte (header.bytes protocol ++ body) 0 = .ok (0x45 + UInt8.ofNat header.words) := rfl
  have hprotocol : byte (header.bytes protocol ++ body) 9 = .ok protocol := rfl
  have httl : byte (header.bytes protocol ++ body) 8 = .ok header.ttl := rfl
  have hdst : readIpv4Addr (header.bytes protocol ++ body) 16 = .ok header.dst := rfl
  have hdata : (icmp.bytes false ++ (header.bytes protocol ++ body)).length =
      8 + (20 + 4 * header.words + body.length) := by
    rw [List.length_append, icmp.length_bytes, hquote]
  unfold parseIcmpErrorPayloadV4WithMtu
  -- Where the checks on the lengths fail, too little of the transport header is left to identify.
  by_cases hshort : (icmp.bytes false ++ (header.bytes protocol ++ body)).length < 8 + 20 + 8
  · rw [if_pos hshort, IpHeader.quoted, parseQuoted_short _ _ _ (by omega), reject_bind]
  rw [if_neg hshort, hlength, ok_bind, dropFrom_append _ (icmp.length_bytes false), ok_bind, hfirst,
    ok_bind, hprotocol, ok_bind, httl, ok_bind, hdst, ok_bind, ipv4HeaderLength_first]
  by_cases hbody : body.length < 8
  · rw [if_pos (by omega), IpHeader.quoted, parseQuoted_short _ _ _ hbody, reject_bind]
  rw [if_neg (by omega), dropFrom_append body hlen, ok_bind, hexts, ok_bind]
  rfl

/-- The destination of an IPv6 header. -/
theorem readIpv6Addr_dst (header : Ipv6Header) (next_header : UInt8) (rest : List UInt8) :
    readIpv6Addr (header.bytes next_header ++ rest) 24 = .ok header.dst := by
  unfold readIpv6Addr
  have h0 : be16 (header.bytes next_header ++ rest) 24 = .ok header.dst.s0 := be16_of_bytes rfl rfl
  have h1 : be16 (header.bytes next_header ++ rest) 26 = .ok header.dst.s1 := be16_of_bytes rfl rfl
  have h2 : be16 (header.bytes next_header ++ rest) 28 = .ok header.dst.s2 := be16_of_bytes rfl rfl
  have h3 : be16 (header.bytes next_header ++ rest) 30 = .ok header.dst.s3 := be16_of_bytes rfl rfl
  have h4 : be16 (header.bytes next_header ++ rest) 32 = .ok header.dst.s4 := be16_of_bytes rfl rfl
  have h5 : be16 (header.bytes next_header ++ rest) 34 = .ok header.dst.s5 := be16_of_bytes rfl rfl
  have h6 : be16 (header.bytes next_header ++ rest) 36 = .ok header.dst.s6 := be16_of_bytes rfl rfl
  have h7 : be16 (header.bytes next_header ++ rest) 38 = .ok header.dst.s7 := be16_of_bytes rfl rfl
  rw [h0, ok_bind, h1, ok_bind, h2, ok_bind, h3, ok_bind, h4, ok_bind, h5, ok_bind, h6, ok_bind, h7,
    ok_bind]
  rfl

/-- The parser on an IPv6 error payload. -/
theorem parseIcmpErrorPayloadV6Dgram_eq (icmp : ErrorHeader) (header : Ipv6Header)
    (chain : List ExtHeader) {protocol : UInt8} (hskip : protocol ∉ ipv6Skipped)
    (hstop : protocol ∉ ipv6Stopped) (body : List UInt8) (responder : IpAddr)
    (our_identifier : UInt16) (response_type : IcmpResponseType) (mtu : Option UInt16) :
    ∃ exts, parseIcmpErrorPayloadV6Dgram
        (icmp.bytes true ++ ((IpHeader.v6 header chain).bytes protocol ++ body))
        responder our_identifier response_type mtu = do
      let probe ← (IpHeader.v6 header chain).quoted protocol body our_identifier
      return errorResponse responder response_type mtu header.hop_limit (.V6 header.dst) exts
        probe := by
  have hassoc : (IpHeader.v6 header chain).bytes protocol ++ body =
      header.bytes (chainKind chain protocol) ++ (chainBytes chain protocol ++ body) :=
    List.append_assoc _ _ _
  have hquote : (header.bytes (chainKind chain protocol) ++
      (chainBytes chain protocol ++ body)).length =
      40 + (chainBytes chain protocol).length + body.length := by
    rw [List.length_append, List.length_append, header.length_bytes]
    omega
  have htransport : (header.bytes (chainKind chain protocol) ++ chainBytes chain protocol).length =
      ipv6HeaderLen + (chainBytes chain protocol).length := by
    rw [List.length_append, header.length_bytes]
    rfl
  rw [hassoc]
  obtain ⟨exts, hexts⟩ := parseIcmpExtensions_succeeds
    (header.bytes (chainKind chain protocol) ++ (chainBytes chain protocol ++ body))
    ((icmp.rest >>> 16).toUInt16 >>> 8).toUInt8 true
  refine ⟨exts, ?_⟩
  have hlength : byte (icmp.bytes true ++ (header.bytes (chainKind chain protocol) ++
      (chainBytes chain protocol ++ body))) 4 =
      .ok ((icmp.rest >>> 16).toUInt16 >>> 8).toUInt8 := rfl
  have hnext : byte (header.bytes (chainKind chain protocol) ++
      (chainBytes chain protocol ++ body)) 6 = .ok (chainKind chain protocol) := rfl
  have httl : byte (header.bytes (chainKind chain protocol) ++
      (chainBytes chain protocol ++ body)) 7 = .ok header.hop_limit := rfl
  have hdata : (icmp.bytes true ++ (header.bytes (chainKind chain protocol) ++
      (chainBytes chain protocol ++ body))).length =
      8 + (40 + (chainBytes chain protocol).length + body.length) := by
    rw [List.length_append, icmp.length_bytes, hquote]
  unfold parseIcmpErrorPayloadV6Dgram
  by_cases hshort : (icmp.bytes true ++ (header.bytes (chainKind chain protocol) ++
      (chainBytes chain protocol ++ body))).length < 8 + ipv6HeaderLen + 8
  · have hbody : body.length < 8 := by
      rw [ipv6HeaderLen] at hshort
      omega
    rw [if_pos hshort, IpHeader.quoted, parseQuoted_short _ _ _ hbody, reject_bind]
  -- The walk over the chain gives the place of the transport header, and its protocol.
  rw [if_neg hshort, hlength, ok_bind, dropFrom_append _ (icmp.length_bytes true), ok_bind, hnext,
    ok_bind, httl, ok_bind, readIpv6Addr_dst, ok_bind, skipIpv6ExtHeadersQuoted_bytes hskip hstop,
    ok_bind]
  dsimp only [Option.getD_some]
  rw [if_neg (by rw [hquote, ipv6HeaderLen]; omega), ← List.append_assoc,
    dropFrom_append body htransport, ok_bind, List.append_assoc, hexts, ok_bind]
  rfl

/-! ## The parser on messages -/

/-- The last four bytes of the header. -/
theorem be32_rest (ipv6 : Bool) (icmp : ErrorHeader) (quote : List UInt8) :
    be32 (icmp.bytes ipv6 ++ quote) 4 = .ok icmp.rest :=
  be32_of_halves (be16_of_bytes rfl rfl) (be16_of_bytes rfl rfl)

/-- The last two bytes of the header. -/
theorem be16_rest (ipv6 : Bool) (icmp : ErrorHeader) (quote : List UInt8) :
    be16 (icmp.bytes ipv6 ++ quote) 6 = .ok icmp.rest.toUInt16 :=
  be16_of_bytes rfl rfl

/-- An error message has a whole ICMP header. -/
theorem ErrorHeader.le_length_bytes_append (icmp : ErrorHeader) (ipv6 : Bool) (quote : List UInt8) :
    8 ≤ (icmp.bytes ipv6 ++ quote).length := by
  rw [List.length_append, icmp.length_bytes]
  exact Nat.le_add_right 8 _

/-- The MTU that the IPv4 parser reads. -/
theorem fragNeededMtu_eq (icmp : ErrorHeader) (quote : List UInt8)
    (h : icmp.error.hasMtu false) : fragNeededMtu (icmp.bytes false ++ quote) 4 = .ok (icmp.mtu false) := by
  have hle : icmp.rest.toUInt16.toNat ≤ 65535 := Nat.le_of_lt_succ icmp.rest.toUInt16.toNat_lt
  have hlen := icmp.le_length_bytes_append false quote
  have hpos : (0 < icmp.rest.toUInt16) ↔ 0 < icmp.rest.toUInt16.toNat := UInt16.lt_iff_toNat_lt
  unfold fragNeededMtu ErrorHeader.mtu ErrorHeader.mtuField
  rw [if_pos ⟨rfl, hlen⟩, be16_rest, ok_bind]
  simp only [h, Bool.false_eq_true, if_false, hle, hpos, true_and, and_true, UInt16.ofNat_toNat]
  rfl

/-- The MTU that the IPv6 parser reads. -/
theorem packetTooBigMtu_eq (icmp : ErrorHeader) (quote : List UInt8) (h : icmp.error.hasMtu true) :
    packetTooBigMtu (icmp.bytes true ++ quote) = .ok (icmp.mtu true) := by
  have hlen := icmp.le_length_bytes_append true quote
  have hpos : (0 < icmp.rest) ↔ 0 < icmp.rest.toNat := UInt32.lt_iff_toNat_lt
  have hle : (icmp.rest ≤ 65535) ↔ icmp.rest.toNat ≤ 65535 := UInt32.le_iff_toNat_le
  unfold packetTooBigMtu ErrorHeader.mtu ErrorHeader.mtuField
  rw [if_pos hlen, be32_rest, ok_bind]
  simp only [h, if_true, hle, hpos, true_and, UInt16.ofNat_uInt32ToNat]
  rfl

/-- An error that reports no MTU. -/
theorem ErrorHeader.mtu_eq_none {ipv6 : Bool} {icmp : ErrorHeader}
    (h : icmp.error.hasMtu ipv6 = false) : icmp.mtu ipv6 = none :=
  if_neg (by simp [h])

/-- The IPv4 parser hands an error message to the parser of its payload. -/
theorem parseIcmpResponseV4Dgram_error (icmp : ErrorHeader) (quote : List UInt8)
    (responder : IpAddr) (our_identifier : UInt16) :
    parseIcmpResponseV4Dgram (icmp.bytes false ++ quote) responder our_identifier =
      parseIcmpErrorPayloadV4WithMtu (icmp.bytes false ++ quote) responder our_identifier
        (icmp.error.responseType false) (icmp.mtu false) := by
  have hlen := icmp.le_length_bytes_append false quote
  have htype : byte (icmp.bytes false ++ quote) 0 = .ok (icmp.error.typeCode false).1 := rfl
  have hcode : byte (icmp.bytes false ++ quote) 1 = .ok (icmp.error.typeCode false).2 := rfl
  unfold parseIcmpResponseV4Dgram
  rw [if_neg (by omega), htype, ok_bind, hcode, ok_bind]
  cases herror : icmp.error with
  | TimeExceeded code =>
    rw [ErrorHeader.mtu_eq_none (by rw [herror]; rfl)]
    rfl
  | DestUnreachable code =>
    change (fragNeededMtu (icmp.bytes false ++ quote) code >>= _) = _
    -- Of the codes of Destination Unreachable, only 4 reports an MTU.
    by_cases hfrag : code = 4
    · subst hfrag
      rw [fragNeededMtu_eq icmp quote (by rw [herror]; rfl)]
      rfl
    · have hmtu : fragNeededMtu (icmp.bytes false ++ quote) code = .ok none :=
        if_neg (by simp [hfrag])
      rw [hmtu, ErrorHeader.mtu_eq_none (by rw [herror]; simp [IcmpError.hasMtu, hfrag])]
      rfl
  | TooBig code =>
    change (fragNeededMtu (icmp.bytes false ++ quote) 4 >>= _) = _
    rw [fragNeededMtu_eq icmp quote (by rw [herror]; rfl)]
    rfl

/-- The raw IPv4 parser skips the outer header. -/
theorem parseIcmpResponseV4_outer (outer : Ipv4Header) {message : List UInt8}
    (hlong : 8 ≤ message.length) (responder : IpAddr) (our_identifier : UInt16) :
    parseIcmpResponseV4 (outer.bytes ipprotoIcmp ++ message) responder our_identifier =
      parseIcmpResponseV4Dgram message responder our_identifier := by
  have hlen := outer.length_bytes ipprotoIcmp
  have hfirst : byte (outer.bytes ipprotoIcmp ++ message) 0 = .ok (0x45 + UInt8.ofNat outer.words) :=
    rfl
  have hdata : (outer.bytes ipprotoIcmp ++ message).length = 20 + 4 * outer.words + message.length := by
    rw [List.length_append, hlen]
  unfold parseIcmpResponseV4
  rw [if_neg (by omega), hfirst, ok_bind, ipv4HeaderLength_first, if_neg (by omega),
    dropFrom_append _ hlen]
  rfl

/-- The IPv6 parser hands an error message to the parser of its payload. -/
theorem parseIcmpResponseV6Dgram_error (icmp : ErrorHeader) (quote : List UInt8)
    (responder : IpAddr) (our_identifier : UInt16) :
    parseIcmpResponseV6Dgram (icmp.bytes true ++ quote) responder our_identifier =
      parseIcmpErrorPayloadV6Dgram (icmp.bytes true ++ quote) responder our_identifier
        (icmp.error.responseType true) (icmp.mtu true) := by
  have hlen := icmp.le_length_bytes_append true quote
  have htype : byte (icmp.bytes true ++ quote) 0 = .ok (icmp.error.typeCode true).1 := rfl
  have hcode : byte (icmp.bytes true ++ quote) 1 = .ok (icmp.error.typeCode true).2 := rfl
  unfold parseIcmpResponseV6Dgram
  rw [if_neg (by omega), htype, ok_bind, hcode, ok_bind]
  cases herror : icmp.error with
  | TimeExceeded code =>
    rw [ErrorHeader.mtu_eq_none (by rw [herror]; rfl)]
    rfl
  | DestUnreachable code =>
    rw [ErrorHeader.mtu_eq_none (by rw [herror]; rfl)]
    rfl
  | TooBig code =>
    change (packetTooBigMtu (icmp.bytes true ++ quote) >>= _) = _
    rw [packetTooBigMtu_eq icmp quote (by rw [herror]; rfl)]
    rfl

/-- The parser on an error message: the probe is what the quoted transport header identifies, and the
rest of the response is in the headers before it. -/
theorem parseIcmpResponse_error (outer : Ipv4Header) (is_dgram : Bool) (icmp : ErrorHeader)
    (ip : IpHeader) {protocol : UInt8} (hprotocol : ip.BeforeTransport protocol) (body : List UInt8)
    {responder : IpAddr} (hfamily : responder.isIpv6 = ip.isIpv6) (our_identifier : UInt16) :
    ∃ exts, parseIcmpResponse
        (delivered outer is_dgram ip.isIpv6 icmp (ip.bytes protocol ++ body)) responder
        our_identifier is_dgram = do
      let probe ← ip.quoted protocol body our_identifier
      return errorResponse responder (icmp.error.responseType ip.isIpv6) (icmp.mtu ip.isIpv6) ip.ttl
        ip.dst exts probe := by
  cases ip with
  | v4 header =>
    obtain ⟨exts, hexts⟩ := parseIcmpErrorPayloadV4WithMtu_eq icmp header protocol body responder
      our_identifier (icmp.error.responseType false) (icmp.mtu false)
    refine ⟨exts, Eq.trans ?_ hexts⟩
    have hfamily : responder.isIpv6 = false := hfamily
    rw [← parseIcmpResponseV4Dgram_error]
    -- A datagram socket delivers the message alone, and a raw one the outer header before it.
    cases is_dgram with
    | true =>
      unfold parseIcmpResponse
      rw [hfamily]
      rfl
    | false =>
      unfold parseIcmpResponse
      rw [hfamily]
      exact parseIcmpResponseV4_outer outer (icmp.le_length_bytes_append false _) _ _
  | v6 header chain =>
    obtain ⟨hskip, hstop⟩ := hprotocol rfl
    obtain ⟨exts, hexts⟩ := parseIcmpErrorPayloadV6Dgram_eq icmp header chain hskip hstop body
      responder our_identifier (icmp.error.responseType true) (icmp.mtu true)
    refine ⟨exts, Eq.trans ?_ hexts⟩
    have hfamily : responder.isIpv6 = true := hfamily
    rw [← parseIcmpResponseV6Dgram_error]
    unfold parseIcmpResponse
    rw [hfamily]
    cases is_dgram <;> rfl

end Ttl
