import Ttl.Lib.OnesComplement
import Ttl.Probe.Sums

/-!
# Transport checksums verify

The checksum routines of `src/probe/rawip.rs`, `src/probe/tcp.rs` and `src/probe/icmp.rs` with their loops and
32-bit sums, and the builders over them. Each routine has its own pseudo-header and its own way to leave out the
checksum field: `udp_checksum_v4` is given a zero there, and the other two skip its index.

A receiver adds the words of the pseudo-header and of the whole message, checksum included, and accepts when the
sum folds to all ones (`Verifies`). `checksums_verify` says that it does for what the builders return.
-/

namespace Ttl

open Bytes

namespace Checked

/-- `!sum as u16`. -/
def complement (sum : ℕ) : UInt16 := (~~~ UInt32.ofNat sum).toUInt16

/-- `internet_checksum`. -/
def internetChecksum (data : List UInt8) : Parse UInt16 := do
  let sum ← addWords none data 0
  return complement (← fold sum)

/-- `udp_checksum_v4`. -/
def udpChecksumV4 (src dst : Ipv4Addr) (udp : List UInt8) : Parse UInt16 :=
  internetChecksum (src.octets ++ dst.octets ++ [0, ipprotoUdp] ++ be16Bytes (UInt16.ofNat udp.length) ++ udp)

/-- The words of the pairs of octets that `chunks(2)` returns, of which an address has a whole number. -/
def chunkWords : List UInt8 → List UInt16
  | hi :: lo :: rest => fromBe16 hi lo :: chunkWords rest
  | _ => []

/-- A loop that adds the words of an address. -/
def addSegments (segments : List UInt16) (sum : ℕ) : Parse ℕ :=
  segments.foldlM (fun sum segment => addU32 sum segment.toNat) sum

/-- The pseudo-header of `tcp_checksum`, none when the families are mixed. -/
def tcpPseudoHeader (tcp_header : List UInt8) (src_ip dst_ip : IpAddr) : Parse (Option ℕ) :=
  match src_ip, dst_ip with
  | .V4 src, .V4 dst => do
    let sum ← addSegments (chunkWords src.octets) 0
    let sum ← addSegments (chunkWords dst.octets) sum
    let sum ← addU32 sum ipprotoTcp.toNat
    return some (← addU32 sum (tcp_header.length % 2^32))
  | .V6 src, .V6 dst => do
    let sum ← addSegments (chunkWords src.octets) 0
    let sum ← addSegments (chunkWords dst.octets) sum
    let sum ← addU32 sum (tcp_header.length % 2^32)
    return some (← addU32 sum ipprotoTcp.toNat)
  | _, _ => return none

/-- `tcp_checksum`. -/
def tcpChecksum (tcp_header : List UInt8) (src_ip dst_ip : IpAddr) : Parse UInt16 := do
  match ← tcpPseudoHeader tcp_header src_ip dst_ip with
  | none => return 0
  | some sum =>
    let sum ← addWords (some 16) tcp_header sum
    return complement (← fold sum)

/-- `icmp_ipv6_checksum`. -/
def icmpIpv6Checksum (data : List UInt8) (src_addr dest_addr : Ipv6Addr) : Parse UInt16 := do
  let sum ← addSegments src_addr.segments 0
  let sum ← addSegments dest_addr.segments sum
  let sum ← addU32 sum (data.length % 2^32)
  let sum ← addU32 sum ipprotoIcmpv6.toNat
  let sum ← addWords (some 2) data sum
  return complement (← fold sum)

/-- `build_udp_datagram`. -/
def buildUdpDatagram (src dst : Ipv4Addr) (src_port dst_port : UInt16) (payload : List UInt8) :
    Parse (List UInt8) := do
  let cksum ← udpChecksumV4 src dst (udpDatagram src_port dst_port 0 payload)
  return udpDatagram src_port dst_port (if cksum = 0 then 0xFFFF else cksum) payload

/-- `build_tcp_syn_sized`. -/
def buildTcpSynSized (probe_id : ProbeId) (src_port dst_port : UInt16) (src_ip dst_ip : IpAddr)
    (payload_size : ℕ) : Parse (List UInt8) := do
  let checksum ← tcpChecksum (tcpSyn probe_id src_port dst_port 0 payload_size) src_ip dst_ip
  return tcpSyn probe_id src_port dst_port checksum payload_size

/-- `build_echo_request` with `ipv6` and the addresses. -/
def buildEchoRequestV6 (pnet : Pnet) (identifier sequence : UInt16) (payload_size : ℕ) (src dest : Ipv6Addr)
    (pmtud : Bool) (timestamp : UInt32) : Parse (List UInt8) := do
  let buffer := echoBuffer pnet 128 identifier sequence payload_size pmtud timestamp
  let cksum ← icmpIpv6Checksum buffer src dest
  return pnet.set_checksum buffer cksum

end Checked

/-! ## Sums of parts -/

/-- The words of a part of even length do not reach into what follows. -/
theorem sumWords_append {data : List UInt8} (rest : List UInt8) (h : data.length % 2 = 0) :
    sumWords (data ++ rest) = sumWords data + sumWords rest := by
  fun_induction sumWords data with
  | case1 hi lo data ih =>
    rw [List.length_cons, List.length_cons] at h
    rw [List.cons_append, List.cons_append, sumWords, ih (by omega), Nat.add_assoc]
  | case2 b => cases h
  | case3 => rw [List.nil_append, Nat.zero_add]

/-- A word ahead of the data adds its value. -/
theorem sumWords_be16Bytes (x : UInt16) (rest : List UInt8) :
    sumWords (be16Bytes x ++ rest) = x.toNat + sumWords rest := by
  rw [be16Bytes, List.cons_append, List.cons_append, List.nil_append, sumWords, fromBe16_bytes]

/-- Skipping a word leaves a smaller sum. -/
theorem wordsFrom_le (skip : Option ℕ) (i : ℕ) (data : List UInt8) : wordsFrom skip i data ≤ sumWords data := by
  fun_induction wordsFrom skip i data with
  | case1 i hi lo rest ih =>
    have hword : wordAt skip i hi lo ≤ (fromBe16 hi lo).toNat := by
      unfold wordAt
      split_ifs
      · exact Nat.zero_le _
      · exact le_rfl
    rw [sumWords]
    omega
  | case2 i b => exact le_rfl
  | case3 i => exact le_rfl

/-- The word that is skipped does not matter when it lies ahead of the data. -/
theorem wordsFrom_behind {k i : ℕ} (data : List UInt8) (h : k < i) :
    wordsFrom (some k) i data = sumWords data := by
  fun_induction sumWords data generalizing i with
  | case1 hi lo rest ih => rw [wordsFrom, wordAt, if_neg (by rw [Option.some_inj]; omega), ih (by omega)]
  | case2 b => rfl
  | case3 => rfl

/-- Skipping a word that is zero leaves the sum. -/
theorem wordsFrom_zero (pre : List UInt8) (i : ℕ) (rest : List UInt8) (h : pre.length % 2 = 0) :
    wordsFrom (some (i + pre.length)) i (pre ++ be16Bytes 0 ++ rest) =
      sumWords (pre ++ be16Bytes 0 ++ rest) := by
  fun_induction sumWords pre generalizing i with
  | case1 hi lo pre ih =>
    rw [List.length_cons, List.length_cons] at h ⊢
    have hnext : i + (pre.length + 1 + 1) = i + 2 + pre.length := by omega
    rw [List.cons_append, List.cons_append, List.cons_append, List.cons_append, wordsFrom, wordAt,
      if_neg (by rw [Option.some_inj]; omega), hnext, ih (i + 2) (by omega), sumWords]
  | case2 b => cases h
  | case3 =>
    rw [List.length_nil, Nat.add_zero, List.nil_append, be16Bytes, List.cons_append, List.cons_append,
      List.nil_append, wordsFrom, wordAt, if_pos rfl, wordsFrom_behind rest (Nat.lt_add_of_pos_right Nat.zero_lt_two),
      sumWords]
    rfl

/-! ## Folded sums -/

/-- The fold of the code is the fold of a one's-complement sum. -/
theorem foldCarries_eq {sum : ℕ} (hsum : sum < 2^32) : foldCarries sum = OnesComplement.fold 16 sum := by
  have hmod : sum % 2^32 = sum := Nat.mod_eq_of_lt hsum
  unfold foldCarries
  dsimp only
  rw [hmod]
  obtain ⟨once, honce⟩ : ∃ n, n = sum % 2^16 + sum / 2^16 := ⟨_, rfl⟩
  rw [← honce]
  have htwice : once % 2^16 + once / 2^16 < 2^16 := by omega
  rw [← OnesComplement.fold_of_lt htwice]
  obtain hlt | hle := Nat.lt_or_ge once (2^16)
  · have hsame : once % 2^16 + once / 2^16 = once := by omega
    rw [hsame, honce]
    obtain hlow | hhigh := Nat.lt_or_ge sum (2^16)
    · have hsum' : sum % 2^16 + sum / 2^16 = sum := by omega
      rw [hsum']
    · rw [OnesComplement.fold_of_le hhigh]
  · rw [← OnesComplement.fold_of_le hle, honce, ← OnesComplement.fold_of_le (by omega)]

/-- The complement of a folded sum is what is missing to all ones. -/
theorem complement_toNat {sum : ℕ} (h : sum < 2^16) : (Checked.complement sum).toNat = 2^16 - 1 - sum := by
  unfold Checked.complement
  rw [UInt32.toNat_toUInt16, UInt32.toNat_not, UInt32.toNat_ofNat']
  rw [Nat.mod_eq_of_lt (show sum < 2^32 by omega), show UInt32.size = 2^32 from rfl]
  omega

/-- The end of each routine: the words of the message are added, and the folded sum is complemented. -/
theorem finish_ok (skip : Option ℕ) (data : List UInt8) (sum : ℕ) (hlen : data.length < 2^63)
    (hsum : sum + sumWords data < 2^32) :
    ∃ cksum, (Checked.addWords skip data sum >>= fun sum => do
        return Checked.complement (← Checked.fold sum)) = .ok cksum ∧
      cksum.toNat = 2^16 - 1 - OnesComplement.fold 16 (sum + wordsFrom skip 0 data) := by
  have hle := wordsFrom_le skip 0 data
  have hlt := OnesComplement.fold_lt (w := 16) (sum + wordsFrom skip 0 data)
  rw [Checked.addWords_eq hlen (by omega), fit_ok (by omega), ok_bind, Checked.fold_eq (by omega),
    foldCarries_eq (by omega)]
  exact ⟨_, rfl, complement_toNat hlt⟩

/-! ## Pseudo-headers -/

/-- The sum of the words of an address. -/
def segmentSum (segments : List UInt16) : ℕ := (segments.map UInt16.toNat).sum

/-- Every word is at most all ones. -/
theorem segmentSum_le (segments : List UInt16) : segmentSum segments ≤ segments.length * 65535 := by
  induction segments with
  | nil => exact Nat.zero_le _
  | cons segment segments ih =>
    have hword : segment.toNat < 2^16 := segment.toNat_lt
    unfold segmentSum at ih ⊢
    rw [List.map_cons, List.sum_cons, List.length_cons]
    omega

/-- The loop adds the words of an address, where the sum fits. -/
theorem addSegments_ok {segments : List UInt16} {sum : ℕ} (h : sum + segmentSum segments < 2^32) :
    Checked.addSegments segments sum = .ok (sum + segmentSum segments) := by
  induction segments generalizing sum with
  | nil => rfl
  | cons segment segments ih =>
    unfold segmentSum at h ⊢
    rw [List.map_cons, List.sum_cons] at h ⊢
    unfold Checked.addSegments
    rw [List.foldlM_cons, addU32_ok (by omega), ok_bind, ← Nat.add_assoc]
    exact ih (by unfold segmentSum; omega)

/-- Twice a number is even. -/
theorem even_of_length {data : List UInt8} (n : ℕ) (h : data.length = 2 * n) : data.length % 2 = 0 := by
  rw [h, Nat.mul_mod_right]

/-- An IPv4 address has a whole number of words. -/
theorem octets_even_v4 (addr : Ipv4Addr) : addr.octets.length % 2 = 0 := even_of_length 2 rfl

/-- An IPv6 address has a whole number of words. -/
theorem octets_even_v6 (addr : Ipv6Addr) : addr.octets.length % 2 = 0 := even_of_length 8 rfl

/-- The words of an IPv4 address, as the loop adds them. -/
theorem sumWords_v4 (addr : Ipv4Addr) : sumWords addr.octets = segmentSum (Checked.chunkWords addr.octets) := rfl

/-- The sum over the octets of words is the sum of the words. -/
theorem sumWords_segments (segments : List UInt16) :
    sumWords (segments.flatMap be16Bytes) = segmentSum segments := by
  induction segments with
  | nil => rfl
  | cons segment segments ih =>
    rw [List.flatMap_cons, sumWords_be16Bytes, ih]
    rfl

/-- The words of their own octets. -/
theorem chunkWords_segments (segments : List UInt16) :
    Checked.chunkWords (segments.flatMap be16Bytes) = segments := by
  induction segments with
  | nil => rfl
  | cons segment segments ih =>
    rw [List.flatMap_cons, be16Bytes, List.cons_append, List.cons_append, List.nil_append, Checked.chunkWords, ih,
      fromBe16_bytes]

/-- What an IPv4 receiver puts before a message. -/
def pseudoHeaderV4 (src dst : Ipv4Addr) (protocol : UInt8) (length : ℕ) : List UInt8 :=
  src.octets ++ dst.octets ++ [0, protocol] ++ be16Bytes (UInt16.ofNat length)

/-- What an IPv6 receiver puts before a message. -/
def pseudoHeaderV6 (src dst : Ipv6Addr) (next_header : UInt8) (length : ℕ) : List UInt8 :=
  src.octets ++ dst.octets ++ be32Bytes (UInt32.ofNat length) ++ [0, 0, 0, next_header]

/-- The protocol of a pseudo-header is the low byte of its word. -/
theorem sumWords_protocol (protocol : UInt8) (rest : List UInt8) :
    sumWords ([0, protocol] ++ rest) = protocol.toNat + sumWords rest := by
  rw [List.cons_append, List.cons_append, List.nil_append, sumWords, toNat_fromBe16]
  have hzero : (0 : UInt8).toNat = 0 := rfl
  rw [hzero, Nat.zero_mul, Nat.zero_add]

/-- The sum over an IPv4 pseudo-header and a message, as the routines add it. -/
theorem sumWords_pseudoHeaderV4 (src dst : Ipv4Addr) (protocol : UInt8) {length : ℕ} (message : List UInt8)
    (h : length ≤ 65535) :
    sumWords (pseudoHeaderV4 src dst protocol length ++ message) =
      segmentSum (Checked.chunkWords src.octets) + segmentSum (Checked.chunkWords dst.octets) +
        protocol.toNat + length + sumWords message := by
  have hlength : (UInt16.ofNat length).toNat = length := UInt16.toNat_ofNat_of_lt' (Nat.lt_succ_of_le h)
  unfold pseudoHeaderV4
  rw [List.append_assoc, List.append_assoc, List.append_assoc, sumWords_append _ (octets_even_v4 src),
    sumWords_append _ (octets_even_v4 dst), sumWords_protocol, sumWords_be16Bytes, hlength, sumWords_v4, sumWords_v4]
  omega

/-- The sum over an IPv6 pseudo-header and a message, as the routines add it. -/
theorem sumWords_pseudoHeaderV6 (src dst : Ipv6Addr) (next_header : UInt8) {length : ℕ}
    (message : List UInt8) (h : length ≤ 65535) :
    sumWords (pseudoHeaderV6 src dst next_header length ++ message) =
      segmentSum src.segments + segmentSum dst.segments + length + next_header.toNat + sumWords message := by
  have hlength : (UInt32.ofNat length).toNat = length := UInt32.toNat_ofNat_of_lt' (h.trans_lt (by decide))
  have hlow : (UInt32.ofNat length).toUInt16.toNat = length := by
    rw [UInt32.toNat_toUInt16, hlength]
    omega
  have hhigh : (UInt32.ofNat length >>> 16).toUInt16.toNat = 0 := by
    rw [UInt32.toNat_toUInt16, UInt32.toNat_shiftRight, hlength, show (16 : UInt32).toNat % 32 = 16 from rfl,
      Nat.shiftRight_eq_div_pow]
    omega
  have hnext : [0, 0, 0, next_header] = be16Bytes 0 ++ [0, next_header] := rfl
  unfold pseudoHeaderV6 be32Bytes
  rw [hnext]
  simp only [List.append_assoc]
  rw [sumWords_append _ (octets_even_v6 src), sumWords_append _ (octets_even_v6 dst), sumWords_be16Bytes,
    sumWords_be16Bytes, sumWords_be16Bytes, sumWords_protocol, hlow, hhigh, Ipv6Addr.octets, Ipv6Addr.octets,
    sumWords_segments, sumWords_segments]
  have hzero : (0 : UInt16).toNat = 0 := rfl
  omega

/-! ## The routines on any message -/

/-- `65535`, the length that a message may have. -/
def maxMessage : ℕ := 65535

section

variable (message : List UInt8)

/-- No message, with a pseudo-header, comes near to `2^32`. -/
theorem sumWords_lt_of_le {message : List UInt8} (h : message.length ≤ maxMessage + 12) :
    sumWords message < 2^31 + 2^20 := by
  have hle := sumWords_le message
  unfold maxMessage at h
  omega

/-- The routine does not overflow, and returns the complement of the folded sum. -/
theorem internetChecksum_ok (h : message.length ≤ maxMessage + 12) :
    ∃ cksum, Checked.internetChecksum message = .ok cksum ∧
      cksum.toNat = 2^16 - 1 - OnesComplement.fold 16 (sumWords message) := by
  have hlt := sumWords_lt_of_le h
  unfold maxMessage at h
  obtain ⟨cksum, hok, hsum⟩ := finish_ok none message 0 (by omega) (by omega)
  rw [wordsFrom_none, Nat.zero_add] at hsum
  exact ⟨cksum, hok, hsum⟩

/-- The routine for UDP does not overflow, and sums the pseudo-header as well. -/
theorem udpChecksumV4_ok (src dst : Ipv4Addr) (h : message.length ≤ maxMessage) :
    ∃ cksum, Checked.udpChecksumV4 src dst message = .ok cksum ∧
      cksum.toNat = 2^16 - 1 -
        OnesComplement.fold 16 (sumWords (pseudoHeaderV4 src dst ipprotoUdp message.length ++ message)) := by
  have hpseudo : (pseudoHeaderV4 src dst ipprotoUdp message.length).length = 12 := rfl
  have hlen : (pseudoHeaderV4 src dst ipprotoUdp message.length ++ message).length ≤ maxMessage + 12 := by
    rw [List.length_append, hpseudo]
    omega
  exact internetChecksum_ok _ hlen

/-- The routine for TCP over IPv4 does not overflow, and sums the pseudo-header as well. -/
theorem tcpChecksum_v4_ok (src dst : Ipv4Addr) (h : message.length ≤ maxMessage) :
    ∃ cksum, Checked.tcpChecksum message (.V4 src) (.V4 dst) = .ok cksum ∧
      cksum.toNat = 2^16 - 1 - OnesComplement.fold 16 (segmentSum (Checked.chunkWords src.octets) +
        segmentSum (Checked.chunkWords dst.octets) + ipprotoTcp.toNat + message.length +
          wordsFrom (some 16) 0 message) := by
  have hlt := sumWords_lt_of_le (Nat.le_add_right_of_le h)
  have hsrc : segmentSum (Checked.chunkWords src.octets) ≤ 2 * 65535 := segmentSum_le _
  have hdst : segmentSum (Checked.chunkWords dst.octets) ≤ 2 * 65535 := segmentSum_le _
  have hproto : ipprotoTcp.toNat = 6 := rfl
  have hmod : message.length % 2^32 = message.length := Nat.mod_eq_of_lt (h.trans_lt (by decide))
  unfold maxMessage at h
  unfold Checked.tcpChecksum Checked.tcpPseudoHeader
  dsimp only
  rw [addSegments_ok (by omega), ok_bind, addSegments_ok (by omega), ok_bind, addU32_ok (by omega), ok_bind, hmod,
    addU32_ok (by omega), Nat.zero_add]
  exact finish_ok _ message _ (by omega) (by omega)

/-- The routine for TCP over IPv6 does not overflow, and sums the pseudo-header as well. -/
theorem tcpChecksum_v6_ok (src dst : Ipv6Addr) (h : message.length ≤ maxMessage) :
    ∃ cksum, Checked.tcpChecksum message (.V6 src) (.V6 dst) = .ok cksum ∧
      cksum.toNat = 2^16 - 1 - OnesComplement.fold 16 (segmentSum src.segments + segmentSum dst.segments +
        message.length + ipprotoTcp.toNat + wordsFrom (some 16) 0 message) := by
  have hlt := sumWords_lt_of_le (Nat.le_add_right_of_le h)
  have hsrc : segmentSum src.segments ≤ 8 * 65535 := segmentSum_le _
  have hdst : segmentSum dst.segments ≤ 8 * 65535 := segmentSum_le _
  have hproto : ipprotoTcp.toNat = 6 := rfl
  have hmod : message.length % 2^32 = message.length := Nat.mod_eq_of_lt (h.trans_lt (by decide))
  unfold maxMessage at h
  unfold Checked.tcpChecksum Checked.tcpPseudoHeader Ipv6Addr.octets
  dsimp only
  rw [chunkWords_segments, chunkWords_segments, addSegments_ok (by omega), ok_bind, addSegments_ok (by omega),
    ok_bind, hmod, addU32_ok (by omega), ok_bind, addU32_ok (by omega), Nat.zero_add]
  exact finish_ok _ message _ (by omega) (by omega)

/-- The routine for ICMPv6 does not overflow, and sums the pseudo-header as well. -/
theorem icmpIpv6Checksum_ok (src dst : Ipv6Addr) (h : message.length ≤ maxMessage) :
    ∃ cksum, Checked.icmpIpv6Checksum message src dst = .ok cksum ∧
      cksum.toNat = 2^16 - 1 - OnesComplement.fold 16 (segmentSum src.segments + segmentSum dst.segments +
        message.length + ipprotoIcmpv6.toNat + wordsFrom (some 2) 0 message) := by
  have hlt := sumWords_lt_of_le (Nat.le_add_right_of_le h)
  have hsrc : segmentSum src.segments ≤ 8 * 65535 := segmentSum_le _
  have hdst : segmentSum dst.segments ≤ 8 * 65535 := segmentSum_le _
  have hproto : ipprotoIcmpv6.toNat = 58 := rfl
  have hmod : message.length % 2^32 = message.length := Nat.mod_eq_of_lt (h.trans_lt (by decide))
  unfold maxMessage at h
  unfold Checked.icmpIpv6Checksum
  rw [addSegments_ok (by omega), ok_bind, addSegments_ok (by omega), ok_bind, hmod, addU32_ok (by omega), ok_bind,
    addU32_ok (by omega), ok_bind, Nat.zero_add]
  exact finish_ok _ message _ (by omega) (by omega)

end

/-! ## Verification -/

/-- The receiver's check: the words of the pseudo-header and of the message fold to all ones. -/
def Verifies (pseudo_header message : List UInt8) : Prop :=
  OnesComplement.fold 16 (sumWords (pseudo_header ++ message)) = 0xFFFF

section

variable {pseudo before after : List UInt8} {cksum : UInt16}

/-- A checksum in its field adds to the sum with zero there. -/
theorem sumWords_field (hpseudo : pseudo.length % 2 = 0) (hbefore : before.length % 2 = 0) :
    sumWords (pseudo ++ (before ++ be16Bytes cksum ++ after)) =
      sumWords (pseudo ++ (before ++ be16Bytes 0 ++ after)) + cksum.toNat := by
  have hzero : (0 : UInt16).toNat = 0 := rfl
  rw [sumWords_append _ hpseudo, sumWords_append _ hpseudo, List.append_assoc, List.append_assoc,
    sumWords_append _ hbefore, sumWords_append _ hbefore, sumWords_be16Bytes, sumWords_be16Bytes]
  omega

/-- A message whose field holds the complement of its folded sum verifies. -/
theorem verifies_of_complement (hpseudo : pseudo.length % 2 = 0) (hbefore : before.length % 2 = 0)
    (hcksum : cksum.toNat = 2^16 - 1 -
      OnesComplement.fold 16 (sumWords (pseudo ++ (before ++ be16Bytes 0 ++ after)))) :
    Verifies pseudo (before ++ be16Bytes cksum ++ after) := by
  unfold Verifies
  rw [sumWords_field hpseudo hbefore, hcksum]
  exact OnesComplement.fold_add_complement _

/-- Where the complement is zero, all ones in the field verify too. -/
theorem verifies_of_ones (hpseudo : pseudo.length % 2 = 0) (hbefore : before.length % 2 = 0)
    (hcksum : (0 : UInt16).toNat = 2^16 - 1 -
      OnesComplement.fold 16 (sumWords (pseudo ++ (before ++ be16Bytes 0 ++ after)))) :
    Verifies pseudo (before ++ be16Bytes 0xFFFF ++ after) := by
  have hlt := OnesComplement.fold_lt (w := 16) (sumWords (pseudo ++ (before ++ be16Bytes 0 ++ after)))
  have hzero : (0 : UInt16).toNat = 0 := rfl
  unfold Verifies
  rw [sumWords_field hpseudo hbefore]
  exact OnesComplement.fold_add_ones (by omega)

end

/-! ## The builders -/

/-- An IPv4 pseudo-header has a whole number of words. -/
theorem pseudoHeaderV4_even (src dst : Ipv4Addr) (protocol : UInt8) (length : ℕ) :
    (pseudoHeaderV4 src dst protocol length).length % 2 = 0 := even_of_length 6 rfl

/-- An IPv6 pseudo-header has a whole number of words. -/
theorem pseudoHeaderV6_even (src dst : Ipv6Addr) (next_header : UInt8) (length : ℕ) :
    (pseudoHeaderV6 src dst next_header length).length % 2 = 0 := even_of_length 20 rfl

/-- The UDP datagram verifies, and its checksum is not zero. -/
theorem buildUdpDatagram_verifies (src dst : Ipv4Addr) (src_port dst_port : UInt16) {payload : List UInt8}
    (h : 8 + payload.length ≤ maxMessage) :
    ∃ dgram, Checked.buildUdpDatagram src dst src_port dst_port payload = .ok dgram ∧
      Verifies (pseudoHeaderV4 src dst ipprotoUdp dgram.length) dgram ∧
      ∃ cksum, be16 dgram 6 = .ok cksum ∧ cksum ≠ 0 := by
  have hlen : ∀ cksum, (udpDatagram src_port dst_port cksum payload).length = 8 + payload.length := fun cksum =>
    List.length_append
  obtain ⟨cksum, hok, hsum⟩ := udpChecksumV4_ok (udpDatagram src_port dst_port 0 payload) src dst
    (by rw [hlen]; exact h)
  have hpseudo := pseudoHeaderV4_even src dst ipprotoUdp (8 + payload.length)
  unfold Checked.buildUdpDatagram
  rw [hok, ok_bind]
  refine ⟨_, rfl, ?_⟩
  rw [hlen] at hsum ⊢
  by_cases hzero : cksum = 0
  · subst hzero
    exact ⟨verifies_of_ones hpseudo (even_of_length 3 rfl) hsum, 0xFFFF, rfl, by decide⟩
  · rw [if_neg hzero]
    exact ⟨verifies_of_complement hpseudo (even_of_length 3 rfl) hsum, cksum, be16_of_bytes rfl rfl, hzero⟩

/-- The part of a TCP segment before its checksum. -/
def tcpBefore (probe_id : ProbeId) (src_port dst_port : UInt16) : List UInt8 :=
  be16Bytes src_port ++ be16Bytes dst_port ++ be32Bytes (probe_id.toSequence.toUInt32 <<< 16) ++
    be32Bytes 0 ++ [0x50, 0x02] ++ be16Bytes 65535

/-- A segment is what stands before its checksum, the checksum, and what stands behind it. -/
theorem tcpSyn_eq (probe_id : ProbeId) (src_port dst_port checksum : UInt16) (payload_size : ℕ) :
    tcpSyn probe_id src_port dst_port checksum payload_size =
      tcpBefore probe_id src_port dst_port ++ be16Bytes checksum ++ (be16Bytes 0 ++ patternFill payload_size) :=
  List.append_assoc _ _ _

/-- A segment is its header and its payload. -/
theorem length_tcpSyn (probe_id : ProbeId) (src_port dst_port checksum : UInt16) (payload_size : ℕ) :
    (tcpSyn probe_id src_port dst_port checksum payload_size).length = 20 + payload_size := by
  have hpattern : (patternFill payload_size).length = payload_size := by
    rw [patternFill, List.length_map, List.length_range]
  unfold tcpSyn
  rw [List.length_append, hpattern]
  rfl

/-- The field that the routine skips is zero while it runs. -/
theorem wordsFrom_tcpSyn (probe_id : ProbeId) (src_port dst_port : UInt16) (payload_size : ℕ) :
    wordsFrom (some 16) 0 (tcpSyn probe_id src_port dst_port 0 payload_size) =
      sumWords (tcpSyn probe_id src_port dst_port 0 payload_size) := by
  rw [tcpSyn_eq]
  exact wordsFrom_zero (tcpBefore probe_id src_port dst_port) 0 _ (even_of_length 8 rfl)

section

variable (probe_id : ProbeId) (src_port dst_port : UInt16) {payload_size : ℕ}
  (h : 20 + payload_size ≤ maxMessage)

include h

/-- The TCP segment verifies over IPv4. -/
theorem buildTcpSynSized_verifies_v4 (src dst : Ipv4Addr) :
    ∃ packet, Checked.buildTcpSynSized probe_id src_port dst_port (.V4 src) (.V4 dst) payload_size = .ok packet ∧
      Verifies (pseudoHeaderV4 src dst ipprotoTcp packet.length) packet := by
  obtain ⟨cksum, hok, hsum⟩ := tcpChecksum_v4_ok (tcpSyn probe_id src_port dst_port 0 payload_size) src dst
    (by rw [length_tcpSyn]; exact h)
  unfold Checked.buildTcpSynSized
  rw [hok, ok_bind]
  refine ⟨_, rfl, ?_⟩
  rw [wordsFrom_tcpSyn, ← sumWords_pseudoHeaderV4 src dst ipprotoTcp _ (by rw [length_tcpSyn]; exact h), length_tcpSyn,
    tcpSyn_eq] at hsum
  rw [length_tcpSyn, tcpSyn_eq]
  exact verifies_of_complement (pseudoHeaderV4_even src dst ipprotoTcp _) (even_of_length 8 rfl) hsum

/-- The TCP segment verifies over IPv6. -/
theorem buildTcpSynSized_verifies_v6 (src dst : Ipv6Addr) :
    ∃ packet, Checked.buildTcpSynSized probe_id src_port dst_port (.V6 src) (.V6 dst) payload_size = .ok packet ∧
      Verifies (pseudoHeaderV6 src dst ipprotoTcp packet.length) packet := by
  obtain ⟨cksum, hok, hsum⟩ := tcpChecksum_v6_ok (tcpSyn probe_id src_port dst_port 0 payload_size) src dst
    (by rw [length_tcpSyn]; exact h)
  unfold Checked.buildTcpSynSized
  rw [hok, ok_bind]
  refine ⟨_, rfl, ?_⟩
  rw [wordsFrom_tcpSyn, ← sumWords_pseudoHeaderV6 src dst ipprotoTcp _ (by rw [length_tcpSyn]; exact h), length_tcpSyn,
    tcpSyn_eq] at hsum
  rw [length_tcpSyn, tcpSyn_eq]
  exact verifies_of_complement (pseudoHeaderV6_even src dst ipprotoTcp _) (even_of_length 8 rfl) hsum

end

/-- An Echo Request is what stands before its checksum, the checksum, and what stands behind it. -/
theorem echoRequest_eq (icmp_type : UInt8) (checksum identifier sequence : UInt16) (payload : List UInt8) :
    echoRequest icmp_type checksum identifier sequence payload =
      [icmp_type, 0] ++ be16Bytes checksum ++ (be16Bytes identifier ++ be16Bytes sequence ++ payload) := by
  unfold echoRequest
  simp only [List.append_assoc]

/-- The field that the routine skips is zero while it runs. -/
theorem wordsFrom_echoRequest (icmp_type : UInt8) (identifier sequence : UInt16) (payload : List UInt8) :
    wordsFrom (some 2) 0 (echoRequest icmp_type 0 identifier sequence payload) =
      sumWords (echoRequest icmp_type 0 identifier sequence payload) := by
  rw [echoRequest_eq]
  exact wordsFrom_zero [icmp_type, 0] 0 _ (even_of_length 1 rfl)

/-- The Echo Request verifies over IPv6. -/
theorem buildEchoRequestV6_verifies {pnet : Pnet} (hpnet : pnet.WritesEcho) (identifier sequence : UInt16)
    {payload_size : ℕ} (src dest : Ipv6Addr) (pmtud : Bool) (timestamp : UInt32)
    (h : 8 + max payload_size minPayloadSize ≤ maxMessage) :
    ∃ packet,
      Checked.buildEchoRequestV6 pnet identifier sequence payload_size src dest pmtud timestamp = .ok packet ∧
        Verifies (pseudoHeaderV6 src dest ipprotoIcmpv6 packet.length) packet := by
  unfold Checked.buildEchoRequestV6
  dsimp only
  rw [hpnet.echoBuffer_eq]
  obtain ⟨payload, hpayload⟩ : ∃ p, p = echoPayload identifier sequence payload_size pmtud timestamp := ⟨_, rfl⟩
  have hlen : 8 + payload.length ≤ maxMessage := by
    rw [hpayload, length_echoPayload]
    exact h
  rw [← hpayload]
  obtain ⟨cksum, hok, hsum⟩ := icmpIpv6Checksum_ok (echoRequest 128 0 identifier sequence payload) src dest
    (by rw [length_echoRequest]; exact hlen)
  rw [hok, ok_bind, hpnet.set_checksum_eq]
  refine ⟨_, rfl, ?_⟩
  rw [wordsFrom_echoRequest, ← sumWords_pseudoHeaderV6 src dest ipprotoIcmpv6 _ (by rw [length_echoRequest]; exact hlen),
    length_echoRequest, echoRequest_eq] at hsum
  rw [length_echoRequest, echoRequest_eq]
  exact verifies_of_complement (pseudoHeaderV6_even src dest ipprotoIcmpv6 _) (even_of_length 1 rfl) hsum

/-- No routine overflows on the message. -/
structure ChecksumsFit (message : List UInt8) : Prop where
  internet : Succeeds (Checked.internetChecksum message)
  udp : ∀ src dst, Succeeds (Checked.udpChecksumV4 src dst message)
  tcp : ∀ src dst, Succeeds (Checked.tcpChecksum message src dst)
  icmp : ∀ src dst, Succeeds (Checked.icmpIpv6Checksum message src dst)

/-- No routine overflows on a message of up to 65535 bytes. -/
theorem checksumsFit {message : List UInt8} (h : message.length ≤ maxMessage) : ChecksumsFit message where
  internet := by
    obtain ⟨cksum, hok, -⟩ := internetChecksum_ok message (Nat.le_add_right_of_le h)
    exact ⟨cksum, hok⟩
  udp src dst := by
    obtain ⟨cksum, hok, -⟩ := udpChecksumV4_ok message src dst h
    exact ⟨cksum, hok⟩
  tcp src dst := by
    cases src with
    | V4 src =>
      cases dst with
      | V4 dst =>
        obtain ⟨cksum, hok, -⟩ := tcpChecksum_v4_ok message src dst h
        exact ⟨cksum, hok⟩
      | V6 dst => exact Succeeds.ok 0
    | V6 src =>
      cases dst with
      | V4 dst => exact Succeeds.ok 0
      | V6 dst =>
        obtain ⟨cksum, hok, -⟩ := tcpChecksum_v6_ok message src dst h
        exact ⟨cksum, hok⟩
  icmp src dst := by
    obtain ⟨cksum, hok, -⟩ := icmpIpv6Checksum_ok message src dst h
    exact ⟨cksum, hok⟩

/-- **Transport checksums verify:** what the builders return passes the receiver's check, the checksum of a UDP
datagram is never zero, and no 32-bit sum of a routine overflows on a message of up to 65535 bytes. The setters
of an Echo Request are those of `pnet`. -/
theorem checksums_verify :
    (∀ src dst src_port dst_port payload, 8 + payload.length ≤ maxMessage →
      ∃ dgram, Checked.buildUdpDatagram src dst src_port dst_port payload = .ok dgram ∧
        Verifies (pseudoHeaderV4 src dst ipprotoUdp dgram.length) dgram ∧
        ∃ cksum, be16 dgram 6 = .ok cksum ∧ cksum ≠ 0) ∧
    (∀ probe_id src_port dst_port src dst payload_size, 20 + payload_size ≤ maxMessage →
      ∃ packet, Checked.buildTcpSynSized probe_id src_port dst_port (.V4 src) (.V4 dst) payload_size = .ok packet ∧
        Verifies (pseudoHeaderV4 src dst ipprotoTcp packet.length) packet) ∧
    (∀ probe_id src_port dst_port src dst payload_size, 20 + payload_size ≤ maxMessage →
      ∃ packet, Checked.buildTcpSynSized probe_id src_port dst_port (.V6 src) (.V6 dst) payload_size = .ok packet ∧
        Verifies (pseudoHeaderV6 src dst ipprotoTcp packet.length) packet) ∧
    (∀ pnet : Pnet, pnet.WritesEcho →
      ∀ identifier sequence src dest pmtud timestamp payload_size,
      8 + max payload_size minPayloadSize ≤ maxMessage →
      ∃ packet,
        Checked.buildEchoRequestV6 pnet identifier sequence payload_size src dest pmtud timestamp = .ok packet ∧
          Verifies (pseudoHeaderV6 src dest ipprotoIcmpv6 packet.length) packet) ∧
    ∀ message : List UInt8, message.length ≤ maxMessage → ChecksumsFit message :=
  ⟨fun src dst src_port dst_port _ h => buildUdpDatagram_verifies src dst src_port dst_port h,
    fun probe_id src_port dst_port src dst _ h => buildTcpSynSized_verifies_v4 probe_id src_port dst_port h src dst,
    fun probe_id src_port dst_port src dst _ h => buildTcpSynSized_verifies_v6 probe_id src_port dst_port h src dst,
    fun _ hpnet identifier sequence src dest pmtud timestamp _ h =>
      buildEchoRequestV6_verifies hpnet identifier sequence src dest pmtud timestamp h,
    fun _ h => checksumsFit h⟩

/-- A datagram with a payload of odd length, and an Echo Request over IPv6. -/
theorem checksums_verify_odd :
    (∃ dgram, Checked.buildUdpDatagram ⟨192, 0, 2, 1⟩ ⟨192, 0, 2, 2⟩ 50000 33434 [1, 2, 3] = .ok dgram ∧
      Verifies (pseudoHeaderV4 ⟨192, 0, 2, 1⟩ ⟨192, 0, 2, 2⟩ ipprotoUdp dgram.length) dgram ∧
      ∃ cksum, be16 dgram 6 = .ok cksum ∧ cksum ≠ 0) ∧
    ∃ packet, Checked.buildEchoRequestV6 samplePnet 4660 257 11 ⟨0x2001, 0xdb8, 0, 0, 0, 0, 0, 1⟩
        ⟨0x2001, 0xdb8, 0, 0, 0, 0, 0, 2⟩ true 0 = .ok packet ∧
      Verifies (pseudoHeaderV6 ⟨0x2001, 0xdb8, 0, 0, 0, 0, 0, 1⟩ ⟨0x2001, 0xdb8, 0, 0, 0, 0, 0, 2⟩
        ipprotoIcmpv6 packet.length) packet :=
  ⟨checksums_verify.1 _ _ _ _ _ (by decide),
    checksums_verify.2.2.2.1 samplePnet samplePnet_writesEcho _ _ _ _ _ _ _ (by decide)⟩

end Ttl
