import Ttl.Probe.Checked

/-!
# Raw and datagram sockets

A raw IPv4 socket delivers the IP header and a datagram socket does not, and `src/probe/correlate.rs` has a parser
for each, with a copy of the parser of error payloads. Behind the header, the raw parser is the datagram parser
(`parseIcmpResponseV4_raw`): its own checks that the ICMP message has eight bytes are implied by the check of the
whole packet.
-/

namespace Ttl

open Bytes

namespace Checked

/-- The length of a header is four times the low half of its first byte, without an overflow. -/
theorem headerLength_eq {packet : List UInt8} {first : UInt8} (h : byte packet 0 = .ok first) :
    getHeaderLength packet = .ok (first &&& 0x0F).toNat ∧
      mulUsize (first &&& 0x0F).toNat 4 = .ok (ipv4HeaderLength first) := by
  have hnibble : (first &&& 0x0F).toNat ≤ 15 := by
    rw [UInt8.toNat_and]
    exact Nat.and_le_right
  refine ⟨?_, mulUsize_ok (by omega)⟩
  rw [getHeaderLength, h]
  rfl

/-- A header has at most 60 bytes. -/
theorem ipv4HeaderLength_le (first : UInt8) : ipv4HeaderLength first ≤ 60 := by
  have hnibble : (first &&& 0x0F).toNat ≤ 15 := by
    rw [UInt8.toNat_and]
    exact Nat.and_le_right
  unfold ipv4HeaderLength
  omega

/-- The raw parser drops the header and goes on as the datagram parser does. -/
theorem parseIcmpResponseV4_eq {data : List UInt8} {first : UInt8} (responder : IpAddr)
    (our_identifier : UInt16) (hfirst : byte data 0 = .ok first) (hlen : 20 ≤ data.length) :
    parseIcmpResponseV4 data responder our_identifier =
      if data.length < ipv4HeaderLength first + 8 then .error .reject
      else parseIcmpResponseV4Dgram (data.drop (ipv4HeaderLength first)) responder our_identifier := by
  have hpacket : ipv4Packet data = .ok data := if_neg (by omega)
  obtain ⟨hwords, hihl⟩ := headerLength_eq hfirst
  have hle := ipv4HeaderLength_le first
  have hend : addUsize (ipv4HeaderLength first) 8 = .ok (ipv4HeaderLength first + 8) :=
    addUsize_ok (by omega)
  unfold parseIcmpResponseV4
  rw [hpacket, ok_bind, hwords, ok_bind, hihl, ok_bind, hend, ok_bind]
  by_cases hshort : data.length < ipv4HeaderLength first + 8
  · rw [if_pos hshort, if_pos hshort]
  · rw [if_neg hshort, if_neg hshort, dropFrom_ok (by omega), ok_bind]
    have hicmp : 8 ≤ (data.drop (ipv4HeaderLength first)).length := by
      rw [List.length_drop]
      omega
    generalize data.drop (ipv4HeaderLength first) = icmp_data at hicmp
    have hwhole : icmpPacket icmp_data = .ok icmp_data := if_neg (by omega)
    obtain ⟨icmp_code, hcode⟩ := byte_succeeds (show 1 < icmp_data.length by omega)
    have hlong : ¬icmp_data.length < 8 := by omega
    unfold parseIcmpResponseV4Dgram
    rw [hwhole, ok_bind, if_neg hlong, if_neg hlong, hcode]
    refine bind_congr fun icmp_type => ?_
    simp only [ok_bind]
    by_cases hreply : icmp_type = 0
    · rw [if_pos hreply, if_pos hreply]
    · rw [if_neg hreply, if_neg hreply]
      rfl

end Checked

/-- An IPv4 header: version 4, and as long as its first byte says, which is at least 20 bytes. -/
structure IsIpv4Header (header : List UInt8) : Prop where
  version : ∃ first, byte header 0 = .ok first ∧ first >>> 4 = 4 ∧ header.length = ipv4HeaderLength first
  length : 20 ≤ header.length

/-- **Raw and datagram sockets agree.** -/
theorem parseIcmpResponseV4_raw {header : List UInt8} (hheader : IsIpv4Header header) (icmp : List UInt8)
    (responder : IpAddr) (our_identifier : UInt16) :
    Checked.parseIcmpResponseV4 (header ++ icmp) responder our_identifier =
      Checked.parseIcmpResponseV4Dgram icmp responder our_identifier := by
  obtain ⟨⟨first, hfirst, -, hihl⟩, hlen⟩ := hheader
  have hbyte : byte (header ++ icmp) 0 = .ok first := by
    rw [← hfirst, byte, byte, List.getElem?_append_left (by omega)]
  have hlength : (header ++ icmp).length = header.length + icmp.length := List.length_append
  rw [Checked.parseIcmpResponseV4_eq responder our_identifier hbyte (by omega), ← hihl, List.drop_left]
  by_cases hshort : icmp.length < 8
  · rw [if_pos (by omega), Checked.parseIcmpResponseV4Dgram, if_pos hshort]
  · rw [if_neg (by omega)]

/-- An Echo Reply behind a header with four bytes of options. -/
theorem parseIcmpResponseV4_raw_options :
    Checked.parseIcmpResponseV4 (0x46 :: List.replicate 23 0 ++ [0, 0, 0xFF, 0xF6, 0, 7, 0, 2])
        (.V4 ⟨192, 0, 2, 1⟩) 7 =
      Checked.parseIcmpResponseV4Dgram [0, 0, 0xFF, 0xF6, 0, 7, 0, 2] (.V4 ⟨192, 0, 2, 1⟩) 7 :=
  parseIcmpResponseV4_raw ⟨⟨0x46, rfl, rfl, rfl⟩, by decide⟩ _ _ _

end Ttl
