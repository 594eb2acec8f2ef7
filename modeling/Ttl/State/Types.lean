import Mathlib.Data.Nat.Bitwise

/-!
# Addresses, probe identifiers and replies

The data that the prober, the receiver and the sessions exchange: the addresses of `std::net`, the
small types of `src/state/session.rs`, and the `ParsedResponse` of `src/probe/correlate.rs`. A
`Duration` and an `Instant` are natural numbers of nanoseconds. A probe is known on the wire by its
`ProbeId` alone, so `fromSequence` must undo `toSequence`.
-/

namespace Ttl

/-- `std::net::Ipv4Addr`: the four octets. -/
structure Ipv4Addr where
  a : UInt8
  b : UInt8
  c : UInt8
  d : UInt8
deriving DecidableEq, Repr

/-- `std::net::Ipv6Addr`: the eight segments. -/
structure Ipv6Addr where
  s0 : UInt16
  s1 : UInt16
  s2 : UInt16
  s3 : UInt16
  s4 : UInt16
  s5 : UInt16
  s6 : UInt16
  s7 : UInt16
deriving DecidableEq, Repr

/-- `octets` of an IPv4 address. -/
def Ipv4Addr.octets (addr : Ipv4Addr) : List UInt8 := [addr.a, addr.b, addr.c, addr.d]

/-- `segments` of an IPv6 address. -/
def Ipv6Addr.segments (addr : Ipv6Addr) : List UInt16 :=
  [addr.s0, addr.s1, addr.s2, addr.s3, addr.s4, addr.s5, addr.s6, addr.s7]

/-- `std::net::IpAddr`. -/
inductive IpAddr where
  | V4 (addr : Ipv4Addr)
  | V6 (addr : Ipv6Addr)
deriving DecidableEq, Repr

/-- `is_ipv6`. -/
def IpAddr.isIpv6 : IpAddr → Bool
  | .V4 _ => false
  | .V6 _ => true

/-- `Duration::MAX`: `u64::MAX` seconds and 999 999 999 nanoseconds. -/
def durationMax : ℕ := (2^64 - 1) * 10^9 + 999999999

/-- `Duration::as_micros`. -/
def asMicros (d : ℕ) : ℕ := d / 1000

/-- `Duration::from_micros`. -/
def fromMicros (us : ℕ) : ℕ := us * 1000

/-- `ProbeId`: what identifies a probe for correlation. -/
structure ProbeId where
  ttl : UInt8
  seq : UInt8
deriving DecidableEq, Repr

/-- `to_sequence`: the TTL above the sequence number, in one 16-bit field. -/
def ProbeId.toSequence (p : ProbeId) : UInt16 := p.ttl.toUInt16 <<< 8 ||| p.seq.toUInt16

/-- `from_sequence`. -/
def ProbeId.fromSequence (seq : UInt16) : ProbeId := ⟨(seq >>> 8).toUInt8, (seq &&& 0xFF).toUInt8⟩

/-- The 16-bit field as a number. -/
theorem ProbeId.toNat_toSequence (p : ProbeId) :
    p.toSequence.toNat = p.ttl.toNat * 2^8 + p.seq.toNat := by
  have ht : p.ttl.toNat < 2^8 := p.ttl.toNat_lt
  have hs : p.seq.toNat < 2^8 := p.seq.toNat_lt
  simp only [toSequence, UInt16.toNat_or, UInt16.toNat_shiftLeft, UInt8.toNat_toUInt16]
  rw [show (8 : UInt16).toNat % 16 = 8 from rfl, Nat.shiftLeft_eq,
    Nat.mod_eq_of_lt (show p.ttl.toNat * 2^8 < 2^16 by omega), mul_comm, Nat.two_pow_add_eq_or_of_lt hs]

/-- The wire encoding of a `ProbeId` gives it back. -/
@[simp]
theorem ProbeId.fromSequence_toSequence (p : ProbeId) : fromSequence p.toSequence = p := by
  have ht : p.ttl.toNat < 2^8 := p.ttl.toNat_lt
  have hs : p.seq.toNat < 2^8 := p.seq.toNat_lt
  have hn := p.toNat_toSequence
  obtain ⟨ttl, seq⟩ := p
  simp only [fromSequence, ProbeId.mk.injEq]
  constructor
  · apply UInt8.toNat_inj.mp
    rw [UInt16.toNat_toUInt8, UInt16.toNat_shiftRight, hn,
      show (8 : UInt16).toNat % 16 = 8 from rfl, Nat.shiftRight_eq_div_pow]
    dsimp only at hs ht ⊢
    omega
  · apply UInt8.toNat_inj.mp
    rw [UInt16.toNat_toUInt8, UInt16.toNat_and, hn, show (0xFF : UInt16).toNat = 2^8 - 1 from rfl,
      Nat.and_two_pow_sub_one_eq_mod]
    dsimp only at hs ht ⊢
    omega

/-- `IcmpResponseType`. -/
inductive IcmpResponseType where
  | EchoReply
  /-- Code 0 is TTL exceeded, code 1 fragment reassembly exceeded. -/
  | TimeExceeded (code : UInt8)
  | DestUnreachable (code : UInt8)
  /-- ICMPv6 type 2. -/
  | PacketTooBig
deriving DecidableEq, Repr

/-- `MplsLabel`: an entry of a label stack in an ICMP extension. -/
structure MplsLabel where
  /-- The label, of 20 bits. -/
  label : UInt32
  /-- Traffic class, of 3 bits. -/
  exp : UInt8
  /-- Bottom of stack. -/
  bottom : Bool
  /-- Time to live. -/
  ttl : UInt8
deriving DecidableEq, Repr

/-- `InterfaceRole` of an interface information object. -/
inductive InterfaceRole where
  | IncomingIp
  | SubIpComponent
  | OutgoingIp
  | IpNextHop
deriving DecidableEq, Repr

/-- `IcmpInterfaceInfo`: an interface information object of an ICMP extension. -/
structure IcmpInterfaceInfo where
  /-- Role of the interface. -/
  role : InterfaceRole
  /-- The SNMP `ifIndex`. -/
  if_index : Option UInt32
  /-- The interface's address. -/
  ip_addr : Option IpAddr
  /-- The interface's name. -/
  name : Option String
  /-- The interface's MTU. -/
  mtu : Option UInt32
deriving DecidableEq, Repr

/-- `ParsedResponse`: what the receiver learns from one packet. -/
structure ParsedResponse where
  /-- Who sent the packet. -/
  responder : IpAddr
  /-- The probe that it answers. -/
  probe_id : ProbeId
  /-- Its type and code. -/
  response_type : IcmpResponseType
  /-- The echoed payload carries the PMTUD marker. -/
  is_pmtud : Bool
  /-- MPLS labels of the extension. -/
  mpls_labels : Option (List MplsLabel)
  /-- Interface information of the extension. -/
  interface_info : Option (List IcmpInterfaceInfo)
  /-- Source port of the quoted packet. -/
  src_port : Option UInt16
  /-- The reported MTU. -/
  mtu : Option UInt16
  /-- TTL of the quoted IP header. -/
  quoted_ttl : Option UInt8
  /-- Where the quoted packet was going, or the responder of an Echo Reply. -/
  original_dest : Option IpAddr
deriving DecidableEq, Repr

end Ttl
