import Ttl.Lib.Bytes
import Ttl.State.Types

/-!
# ICMP extensions

`parse_icmp_extensions` of `src/probe/correlate.rs`: the objects that a router appends to the quoted
packet, of which the MPLS label stack and the interface information are kept. An object that is not
well formed ends the walk or is skipped, so that the extensions never reject a reply, and
`parseIcmpExtensions_succeeds` says that they never stop the parser in another way either.
-/

namespace Ttl

open Bytes

/-- `ICMP_EXT_VERSION`. -/
def icmpExtVersion : UInt8 := 2

/-- `MPLS_LABEL_STACK_CLASS`. -/
def mplsLabelStackClass : UInt8 := 1

/-- `MPLS_LABEL_STACK_TYPE`. -/
def mplsLabelStackType : UInt8 := 1

/-- `INTERFACE_INFO_CLASS`. -/
def interfaceInfoClass : UInt8 := 2

/-- `MIN_ORIGINAL_DATAGRAM`. -/
def minOriginalDatagram : ℕ := 128

/-- `ParsedIcmpExtensions`. -/
structure ParsedIcmpExtensions where
  mpls_labels : Option (List MplsLabel)
  interface_info : Option (List IcmpInterfaceInfo)
deriving DecidableEq

/-- `ParsedIcmpExtensions::default`. -/
def ParsedIcmpExtensions.default : ParsedIcmpExtensions := ⟨none, none⟩

/-! ## Label stacks -/

/-- `MplsLabel::from_bytes`. -/
def MplsLabel.fromBytes (b0 b1 b2 b3 : UInt8) : MplsLabel :=
  let word := fromBe32 (fromBe16 b0 b1) (fromBe16 b2 b3)
  { label := word >>> 12
    exp := ((word >>> 9) &&& 0x7).toUInt8
    bottom := (word >>> 8) &&& 0x1 = 1
    ttl := (word &&& 0xFF).toUInt8 }

/-- The labels of a stack, up to its bottom. -/
def mplsLabels : List UInt8 → List MplsLabel
  | b0 :: b1 :: b2 :: b3 :: rest =>
    let label := MplsLabel.fromBytes b0 b1 b2 b3
    -- What follows the bottom of the stack is padding.
    if label.bottom then [label] else label :: mplsLabels rest
  | _ => []

/-! ## Names -/

/-- A UTF-8 continuation byte. -/
def isContinuation (b : UInt8) : Bool := 0x80 ≤ b ∧ b ≤ 0xBF

/-- The length of the UTF-8 sequences that begin with a byte, 0 when none does. -/
def utf8CharWidth (b : UInt8) : ℕ :=
  if b < 0x80 then 1
  else if 0xC2 ≤ b ∧ b ≤ 0xDF then 2
  else if 0xE0 ≤ b ∧ b ≤ 0xEF then 3
  else if 0xF0 ≤ b ∧ b ≤ 0xF4 then 4
  else 0

/-- The bytes that may come second. -/
def isSecondByte (first b : UInt8) : Bool :=
  if first = 0xE0 then 0xA0 ≤ b ∧ b ≤ 0xBF
  else if first = 0xED then 0x80 ≤ b ∧ b ≤ 0x9F
  else if first = 0xF0 then 0x90 ≤ b ∧ b ≤ 0xBF
  else if first = 0xF4 then 0x80 ≤ b ∧ b ≤ 0x8F
  else isContinuation b

/-- The bytes after `first` that belong to its sequence, as far as it is valid. -/
def utf8Tail (first : UInt8) (rest : List UInt8) : List UInt8 :=
  match rest with
  | second :: more =>
    if 2 ≤ utf8CharWidth first ∧ isSecondByte first second then
      second :: (more.take (utf8CharWidth first - 2)).takeWhile isContinuation
    else []
  | [] => []

/-- The scalar value of a sequence. -/
def utf8Char (first : UInt8) (tail : List UInt8) : Char :=
  let lead : UInt8 :=
    match tail.length with
    | 0 => first
    | 1 => first &&& 0x1F
    | 2 => first &&& 0x0F
    | _ => first &&& 0x07
  Char.ofNat (tail.foldl (fun n b => n * 64 + (b &&& 0x3F).toNat) lead.toNat)

/-- `String::from_utf8_lossy`, with each byte costing at most one unit of `fuel`. A sequence that breaks
off is one replacement character. -/
def fromUtf8Lossy : ℕ → List UInt8 → List Char
  | 0, _ => []
  | _, [] => []
  | fuel + 1, first :: rest =>
    let tail := utf8Tail first rest
    let char := if tail.length + 1 = utf8CharWidth first then utf8Char first tail else '\uFFFD'
    char :: fromUtf8Lossy fuel (rest.drop tail.length)

/-- `char::is_whitespace`. -/
def isWhitespace (c : Char) : Bool :=
  let n := c.toNat
  (9 ≤ n ∧ n ≤ 13) ∨ n ∈ [0x20, 0x85, 0xA0, 0x1680, 0x2028, 0x2029, 0x202F, 0x205F, 0x3000] ∨
    (0x2000 ≤ n ∧ n ≤ 0x200A)

/-- `str::trim`. -/
def trimChars (chars : List Char) : List Char :=
  ((chars.dropWhile isWhitespace).reverse.dropWhile isWhitespace).reverse

/-- The name in a sub-object: up to a NUL, decoded and trimmed, and none when nothing is left. -/
def interfaceName (raw_name : List UInt8) : Option String :=
  let trimmed := raw_name.takeWhile (· ≠ 0)
  match trimChars (fromUtf8Lossy trimmed.length trimmed) with
  | [] => none
  | chars => some (String.ofList chars)

/-! ## Interface information

The sub-objects follow one another as the bits of the C-Type announce them. Each function is given where
its sub-object starts and returns its value and where the next one starts, or `none` when the object is
malformed. -/

/-- The `ifIndex`, bit `0x08`. -/
def subIfIndex (c_type : UInt8) (obj_payload : List UInt8) (pos : ℕ) :
    Parse (Option (Option UInt32 × ℕ)) :=
  if c_type &&& 0x08 ≠ 0 then
    if pos + 4 ≤ obj_payload.length then do
      return some (some (← be32 obj_payload pos), pos + 4)
    else .ok none
  else .ok (some (none, pos))

/-- The IPv4 address in four octets. -/
def readIpv4Addr (data : List UInt8) (i : ℕ) : Parse Ipv4Addr := do
  return ⟨← byte data i, ← byte data (i + 1), ← byte data (i + 2), ← byte data (i + 3)⟩

/-- The IPv6 address in eight segments. -/
def readIpv6Addr (data : List UInt8) (i : ℕ) : Parse Ipv6Addr := do
  return ⟨← be16 data i, ← be16 data (i + 2), ← be16 data (i + 4), ← be16 data (i + 6),
    ← be16 data (i + 8), ← be16 data (i + 10), ← be16 data (i + 12), ← be16 data (i + 14)⟩

/-- The IP address, bit `0x04`. The length of an address of an unknown family is not known, so that the
object is malformed. -/
def subIpAddress (c_type : UInt8) (obj_payload : List UInt8) (pos : ℕ) :
    Parse (Option (Option IpAddr × ℕ)) :=
  if c_type &&& 0x04 ≠ 0 then
    if pos + 4 ≤ obj_payload.length then do
      let afi ← be16 obj_payload pos
      let pos := pos + 4
      if afi = 1 then
        if pos + 4 ≤ obj_payload.length then do
          return some (some (.V4 (← readIpv4Addr obj_payload pos)), pos + 4)
        else .ok none
      else if afi = 2 then
        if pos + 16 ≤ obj_payload.length then do
          return some (some (.V6 (← readIpv6Addr obj_payload pos)), pos + 16)
        else .ok none
      else .ok none
    else .ok none
  else .ok (some (none, pos))

/-- The name, bit `0x02`, after a byte that counts itself and the name. -/
def subName (c_type : UInt8) (obj_payload : List UInt8) (pos : ℕ) :
    Parse (Option (Option String × ℕ)) :=
  if c_type &&& 0x02 ≠ 0 then
    if pos < obj_payload.length then do
      let name_len := (← byte obj_payload pos).toNat
      if 1 ≤ name_len ∧ pos + name_len ≤ obj_payload.length then do
        let raw_name ← slice obj_payload (pos + 1) (pos + name_len)
        return some (interfaceName raw_name, pos + name_len)
      else .ok none
    else .ok none
  else .ok (some (none, pos))

/-- The MTU, bit `0x01`. -/
def subMtu (c_type : UInt8) (obj_payload : List UInt8) (pos : ℕ) :
    Parse (Option (Option UInt32 × ℕ)) :=
  if c_type &&& 0x01 ≠ 0 then
    if pos + 4 ≤ obj_payload.length then do
      return some (some (← be32 obj_payload pos), pos + 4)
    else .ok none
  else .ok (some (none, pos))

section

variable (c_type : UInt8) (obj_payload : List UInt8) (pos : ℕ)

/-- An interface index is read, or the object ends early. -/
theorem subIfIndex_succeeds : Succeeds (subIfIndex c_type obj_payload pos) := by
  unfold subIfIndex
  split_ifs
  · exact (be32_succeeds (by omega)).bind fun _ _ => Succeeds.ok _
  · exact Succeeds.ok _
  · exact Succeeds.ok _

/-- An IPv4 address that is in range is read. -/
theorem readIpv4Addr_succeeds (h : pos + 4 ≤ obj_payload.length) :
    Succeeds (readIpv4Addr obj_payload pos) :=
  (byte_succeeds (by omega)).bind fun _ _ => (byte_succeeds (by omega)).bind fun _ _ =>
    (byte_succeeds (by omega)).bind fun _ _ => (byte_succeeds (by omega)).bind fun _ _ =>
      Succeeds.ok _

/-- An IPv6 address that is in range is read. -/
theorem readIpv6Addr_succeeds (h : pos + 16 ≤ obj_payload.length) :
    Succeeds (readIpv6Addr obj_payload pos) :=
  (be16_succeeds (by omega)).bind fun _ _ => (be16_succeeds (by omega)).bind fun _ _ =>
    (be16_succeeds (by omega)).bind fun _ _ => (be16_succeeds (by omega)).bind fun _ _ =>
      (be16_succeeds (by omega)).bind fun _ _ => (be16_succeeds (by omega)).bind fun _ _ =>
        (be16_succeeds (by omega)).bind fun _ _ => (be16_succeeds (by omega)).bind fun _ _ =>
          Succeeds.ok _

/-- An address is read, or the object ends early. -/
theorem subIpAddress_succeeds : Succeeds (subIpAddress c_type obj_payload pos) := by
  unfold subIpAddress
  split_ifs with hbit hlen
  · refine (be16_succeeds (by omega)).bind fun afi _ => ?_
    dsimp only
    split_ifs
    · exact (readIpv4Addr_succeeds _ _ (by omega)).bind fun _ _ => Succeeds.ok _
    · exact Succeeds.ok _
    · exact (readIpv6Addr_succeeds _ _ (by omega)).bind fun _ _ => Succeeds.ok _
    · exact Succeeds.ok _
    · exact Succeeds.ok _
  · exact Succeeds.ok _
  · exact Succeeds.ok _

/-- A name is read, or the object ends early. -/
theorem subName_succeeds : Succeeds (subName c_type obj_payload pos) := by
  unfold subName
  split_ifs with hbit hlen
  · refine (byte_succeeds hlen).bind fun len _ => ?_
    dsimp only
    split_ifs with hname
    · rw [slice_ok (by omega) hname.2]
      exact Succeeds.ok _
    · exact Succeeds.ok _
  · exact Succeeds.ok _
  · exact Succeeds.ok _

/-- An MTU is read, or the object ends early. -/
theorem subMtu_succeeds : Succeeds (subMtu c_type obj_payload pos) := by
  unfold subMtu
  split_ifs
  · exact (be32_succeeds (by omega)).bind fun _ _ => Succeeds.ok _
  · exact Succeeds.ok _
  · exact Succeeds.ok _

end

/-- The role in the upper two bits of the C-Type. No other value is left for `unreachable!`. -/
def interfaceRole (role_val : UInt8) : Parse InterfaceRole :=
  if role_val = 0 then .ok .IncomingIp
  else if role_val = 1 then .ok .SubIpComponent
  else if role_val = 2 then .ok .OutgoingIp
  else if role_val = 3 then .ok .IpNextHop
  else .error .panic

/-- An interface information object, `none` when it is malformed. -/
def parseInterfaceInfo (role : InterfaceRole) (c_type : UInt8) (obj_payload : List UInt8) :
    Parse (Option IcmpInterfaceInfo) := do
  match ← subIfIndex c_type obj_payload 0 with
  | none => return none
  | some (if_index, pos) =>
    match ← subIpAddress c_type obj_payload pos with
    | none => return none
    | some (ip_addr, pos) =>
      match ← subName c_type obj_payload pos with
      | none => return none
      | some (name, pos) =>
        match ← subMtu c_type obj_payload pos with
        | none => return none
        | some (mtu, _) => return some ⟨role, if_index, ip_addr, name, mtu⟩

/-- Two bits always name a role. -/
theorem interfaceRole_succeeds (c_type : UInt8) :
    Succeeds (interfaceRole ((c_type >>> 6) &&& 0x03)) := by
  have hle : ((c_type >>> 6) &&& 0x03).toNat ≤ 3 := by
    rw [UInt8.toNat_and]
    exact Nat.and_le_right
  generalize (c_type >>> 6) &&& 0x03 = v at hle
  unfold interfaceRole
  split_ifs with h0 h1 h2 h3
  · exact Succeeds.ok _
  · exact Succeeds.ok _
  · exact Succeeds.ok _
  · exact Succeeds.ok _
  · -- None of the four values is left.
    simp only [← UInt8.toNat_inj] at h0 h1 h2 h3
    simp only [UInt8.reduceToNat] at h0 h1 h2 h3
    omega

/-- An interface object is read whatever it is. -/
theorem parseInterfaceInfo_succeeds (role : InterfaceRole) (c_type : UInt8)
    (obj_payload : List UInt8) : Succeeds (parseInterfaceInfo role c_type obj_payload) := by
  unfold parseInterfaceInfo
  refine (subIfIndex_succeeds c_type obj_payload 0).bind fun r _ => ?_
  obtain _ | ⟨if_index, pos⟩ := r
  · exact Succeeds.ok _
  refine (subIpAddress_succeeds c_type obj_payload pos).bind fun r _ => ?_
  obtain _ | ⟨ip_addr, pos⟩ := r
  · exact Succeeds.ok _
  refine (subName_succeeds c_type obj_payload pos).bind fun r _ => ?_
  obtain _ | ⟨name, pos⟩ := r
  · exact Succeeds.ok _
  refine (subMtu_succeeds c_type obj_payload pos).bind fun r _ => ?_
  obtain _ | ⟨mtu, pos⟩ := r
  · exact Succeeds.ok _
  · exact Succeeds.ok _

/-! ## The walk over the objects -/

/-- What the walk has collected. -/
structure ExtensionObjects where
  labels : List MplsLabel
  interfaces : List IcmpInterfaceInfo
  seen_roles : UInt8

/-- One object. Only the first object of a role is read. -/
def parseObject (obj_class obj_type : UInt8) (obj_payload : List UInt8) (acc : ExtensionObjects) :
    Parse ExtensionObjects :=
  if obj_class = mplsLabelStackClass ∧ obj_type = mplsLabelStackType then
    .ok { acc with labels := acc.labels ++ mplsLabels obj_payload }
  else if obj_class = interfaceInfoClass then
    -- The upper two bits of the C-Type are the role, and the lower four say what follows.
    let role_val := (obj_type >>> 6) &&& 0x03
    let role_mask : UInt8 := 1 <<< role_val
    if acc.seen_roles &&& role_mask = 0 then do
      let role ← interfaceRole role_val
      let info ← parseInterfaceInfo role obj_type obj_payload
      return { acc with
        seen_roles := acc.seen_roles ||| role_mask
        interfaces := acc.interfaces ++ info.toList }
    else .ok acc
  else .ok acc

/-- The loop over the objects, each iteration costing one unit of `fuel`. -/
def parseObjects (ext_header : List UInt8) : ℕ → ℕ → ExtensionObjects → Parse ExtensionObjects
  | 0, _, _ => .error .fuel
  | fuel + 1, offset, acc =>
    if offset + 4 ≤ ext_header.length then do
      let obj_length := (← be16 ext_header offset).toNat
      let obj_class ← byte ext_header (offset + 2)
      let obj_type ← byte ext_header (offset + 3)
      -- A length that cannot be right ends the walk, and what it has collected stays.
      if obj_length < 4 ∨ ext_header.length < offset + obj_length then .ok acc
      else do
        let obj_payload ← slice ext_header (offset + 4) (offset + obj_length)
        let acc ← parseObject obj_class obj_type obj_payload acc
        parseObjects ext_header fuel (offset + obj_length) acc
    else .ok acc

/-- `Some` unless the list is empty. -/
def nonempty {α : Type} (l : List α) : Option (List α) := if l.isEmpty then none else some l

/-- Where the extensions start, from the length field of the ICMP header. -/
def extensionStart (icmp_length : UInt8) (is_ipv6 : Bool) : ℕ :=
  if 0 < icmp_length then
    if is_ipv6 then icmp_length.toNat * 8 else icmp_length.toNat * 4
  else minOriginalDatagram

/-- `parse_icmp_extensions`. -/
def parseIcmpExtensions (icmp_payload : List UInt8) (icmp_length : UInt8) (is_ipv6 : Bool) :
    Parse ParsedIcmpExtensions :=
  let ext_start := extensionStart icmp_length is_ipv6
  if icmp_payload.length < ext_start + 4 then .ok .default
  else do
    let ext_header ← dropFrom icmp_payload ext_start
    let version := ((← byte ext_header 0) >>> 4) &&& 0x0F
    if version ≠ icmpExtVersion then return .default
    else do
      let objects ← parseObjects ext_header ext_header.length 4 ⟨[], [], 0⟩
      return ⟨nonempty objects.labels, nonempty objects.interfaces⟩

/-- Every object is read or passed over. -/
theorem parseObject_succeeds (obj_class obj_type : UInt8) (obj_payload : List UInt8)
    (acc : ExtensionObjects) : Succeeds (parseObject obj_class obj_type obj_payload acc) := by
  unfold parseObject
  dsimp only
  split_ifs
  · exact Succeeds.ok _
  · refine (interfaceRole_succeeds obj_type).bind fun role _ => ?_
    exact (parseInterfaceInfo_succeeds role obj_type obj_payload).bind fun _ _ => Succeeds.ok _
  · exact Succeeds.ok _
  · exact Succeeds.ok _

/-- An object takes at least four bytes, so that the walk ends before its fuel. -/
theorem parseObjects_succeeds (ext_header : List UInt8) {fuel offset : ℕ} (acc : ExtensionObjects)
    (hle : offset ≤ ext_header.length) (hfuel : ext_header.length < offset + fuel) :
    Succeeds (parseObjects ext_header fuel offset acc) := by
  induction fuel generalizing offset acc with
  | zero => omega
  | succ fuel ih =>
    unfold parseObjects
    split_ifs with hlen
    · refine (be16_succeeds (by omega)).bind fun obj_length _ => ?_
      refine (byte_succeeds (by omega)).bind fun obj_class _ => ?_
      refine (byte_succeeds (by omega)).bind fun obj_type _ => ?_
      split_ifs with hobj
      · exact Succeeds.ok _
      · rw [slice_ok (by omega) (by omega)]
        refine (parseObject_succeeds _ _ _ acc).bind fun acc' _ => ?_
        exact ih acc' (by omega) (by omega)
    · exact Succeeds.ok _

/-- The extensions of a reply are parsed whatever the bytes are. -/
theorem parseIcmpExtensions_succeeds (icmp_payload : List UInt8) (icmp_length : UInt8)
    (is_ipv6 : Bool) : Succeeds (parseIcmpExtensions icmp_payload icmp_length is_ipv6) := by
  unfold parseIcmpExtensions
  dsimp only
  split_ifs with hlen
  · exact Succeeds.ok _
  · rw [dropFrom_ok (by omega)]
    have hhead : 4 ≤ (icmp_payload.drop (extensionStart icmp_length is_ipv6)).length := by
      rw [List.length_drop]
      omega
    refine (byte_succeeds (by omega)).bind fun b _ => ?_
    split_ifs
    · exact Succeeds.ok _
    · exact (parseObjects_succeeds _ _ hhead (by omega)).bind fun _ _ => Succeeds.ok _

end Ttl
