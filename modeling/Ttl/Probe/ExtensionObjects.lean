import Ttl.Probe.Names

/-!
# Encoded extension objects

What routers append to the quoted datagram: the objects of RFC 4884, of which RFC 4950 defines the label stacks
and RFC 5837 the interface information. The types hold well-formed objects only, so that a bottom of a stack is
its last label and every length fits its field.
-/

namespace Ttl

open Bytes

/-! ## Label stacks -/

/-- A label of a stack, without the bit of the bottom. -/
structure LabelEntry where
  label : Fin (2^20)
  exp : Fin (2^3)
  ttl : UInt8

/-- The label that the entry stands for. -/
def LabelEntry.toMplsLabel (entry : LabelEntry) (bottom : Bool) : MplsLabel :=
  ⟨UInt32.ofNat entry.label, UInt8.ofNat entry.exp, bottom, entry.ttl⟩

/-- The labels of a stack: the last one is the bottom. -/
def stackLabels : List LabelEntry → List MplsLabel
  | [] => []
  | entry :: entries => entry.toMplsLabel entries.isEmpty :: stackLabels entries

/-- The 32 bits of a label: 20 of label, 3 of traffic class, the bottom, and 8 of time to live. -/
def MplsLabel.word (label : MplsLabel) : UInt32 :=
  UInt32.ofNat (label.label.toNat * 2^12 + label.exp.toNat * 2^9 + label.bottom.toNat * 2^8 + label.ttl.toNat)

/-- A label stack on the wire. -/
def stackBytes (entries : List LabelEntry) : List UInt8 :=
  (stackLabels entries).flatMap fun label => be32Bytes label.word

/-- A value below `2^32` is one of its word. -/
theorem toNat_ofNat32 {x : ℕ} (h : x < 2^32) : (UInt32.ofNat x).toNat = x := UInt32.toNat_ofNat_of_lt' h

section

variable (entry : LabelEntry) (bottom : Bool)

/-- A label, its class, its mark and its TTL lie side by side in the word. -/
theorem LabelEntry.toNat_word :
    (entry.toMplsLabel bottom).word.toNat =
      entry.label * 2^12 + entry.exp * 2^9 + bottom.toNat * 2^8 + entry.ttl.toNat := by
  have hlabel := entry.label.isLt
  have hexp := entry.exp.isLt
  have hbottom := bottom.toNat_le
  have httl : entry.ttl.toNat < 2^8 := entry.ttl.toNat_lt
  unfold MplsLabel.word toMplsLabel
  dsimp only
  rw [toNat_ofNat32 (x := entry.label) (by omega), toNat_ofNat (x := entry.exp) (by omega), toNat_ofNat32 (by omega)]

/-- The label in a word. -/
def MplsLabel.ofWord (word : UInt32) : MplsLabel where
  label := word >>> 12
  exp := ((word >>> 9) &&& 0x7).toUInt8
  bottom := (word >>> 8) &&& 0x1 = 1
  ttl := (word &&& 0xFF).toUInt8

/-- A field of a word, above some bits. -/
theorem toNat_shiftRight (word : UInt32) {shift : UInt32} (k : ℕ) (hshift : shift.toNat % 32 = k) :
    (word >>> shift).toNat = word.toNat / 2^k := by
  rw [UInt32.toNat_shiftRight, hshift, Nat.shiftRight_eq_div_pow]

/-- The low bits of a word. -/
theorem toNat_and_mask32 (word : UInt32) {mask : UInt32} (n : ℕ) (hmask : mask.toNat = 2^n - 1) :
    (word &&& mask).toNat = word.toNat % 2^n := by
  rw [UInt32.toNat_and, hmask, Nat.and_two_pow_sub_one_eq_mod]

/-- A label is read back from its word. -/
theorem LabelEntry.ofWord_word :
    MplsLabel.ofWord (entry.toMplsLabel bottom).word = entry.toMplsLabel bottom := by
  have hlabel := entry.label.isLt
  have hexp := entry.exp.isLt
  have hbottom := bottom.toNat_le
  have httl : entry.ttl.toNat < 2^8 := entry.ttl.toNat_lt
  have hword := entry.toNat_word bottom
  generalize (entry.toMplsLabel bottom).word = word at hword ⊢
  have hlabel' : word >>> 12 = UInt32.ofNat entry.label := by
    apply UInt32.toNat_inj.mp
    rw [toNat_shiftRight word 12 rfl, toNat_ofNat32 (by omega), hword]
    omega
  have hexp' : ((word >>> 9) &&& 0x7).toUInt8 = UInt8.ofNat entry.exp := by
    apply UInt8.toNat_inj.mp
    rw [UInt32.toNat_toUInt8, toNat_and_mask32 _ 3 rfl, toNat_shiftRight word 9 rfl, toNat_ofNat (by omega), hword]
    omega
  have hbottom' : decide ((word >>> 8) &&& 0x1 = 1) = bottom := by
    have hbit : ((word >>> 8) &&& 0x1).toNat = bottom.toNat := by
      rw [toNat_and_mask32 _ 1 rfl, toNat_shiftRight word 8 rfl, hword]
      omega
    cases bottom with
    | false => exact decide_eq_false fun h => Nat.zero_ne_one (hbit.symm.trans (congrArg UInt32.toNat h))
    | true => exact decide_eq_true (UInt32.toNat_inj.mp hbit)
  have httl' : (word &&& 0xFF).toUInt8 = entry.ttl := by
    apply UInt8.toNat_inj.mp
    rw [UInt32.toNat_toUInt8, toNat_and_mask32 word 8 rfl, hword]
    omega
  unfold MplsLabel.ofWord
  rw [hlabel', hexp', hbottom', httl', toMplsLabel]

end

/-- The labels after a word. -/
theorem mplsLabels_be32Bytes (word : UInt32) (rest : List UInt8) :
    mplsLabels (be32Bytes word ++ rest) =
      if (MplsLabel.ofWord word).bottom then [MplsLabel.ofWord word]
      else MplsLabel.ofWord word :: mplsLabels rest := by
  have hword : fromBe32 (fromBe16 ((word >>> 16).toUInt16 >>> 8).toUInt8 (word >>> 16).toUInt16.toUInt8)
      (fromBe16 (word.toUInt16 >>> 8).toUInt8 word.toUInt16.toUInt8) = word := by
    rw [fromBe16_bytes, fromBe16_bytes, fromBe32_halves]
  have hlabel : MplsLabel.fromBytes ((word >>> 16).toUInt16 >>> 8).toUInt8 (word >>> 16).toUInt16.toUInt8
      (word.toUInt16 >>> 8).toUInt8 word.toUInt16.toUInt8 = MplsLabel.ofWord word :=
    congrArg MplsLabel.ofWord hword
  rw [← hlabel]
  rfl

/-- **Label stacks:** the labels are read back. -/
theorem mplsLabels_stackBytes (entries : List LabelEntry) :
    mplsLabels (stackBytes entries) = stackLabels entries := by
  induction entries with
  | nil => rfl
  | cons entry entries ih =>
    have hlabel := entry.ofWord_word entries.isEmpty
    rw [stackBytes, stackLabels, List.flatMap_cons, ← stackBytes, mplsLabels_be32Bytes, hlabel, ih]
    -- The bottom ends the reading, and nothing follows it.
    cases entries with
    | nil => rfl
    | cons next entries => rfl

/-! ## Interface information -/

/-- A name that a router can announce: text without NULs in it or blanks around it, whose length fits into the byte
before it. -/
structure InterfaceName where
  text : String
  text_ne_nil : text.toList ≠ []
  no_nul : '\x00' ∉ text.toList
  first_ne_blank : ∀ c ∈ text.toList.head?, isWhitespace c = false
  last_ne_blank : ∀ c ∈ text.toList.getLast?, isWhitespace c = false
  fits : (utf8 text.toList).length < 252

/-- The NULs after a name, which fill the sub-object up to a multiple of four bytes. -/
def InterfaceName.padding (name : InterfaceName) : ℕ := 3 - (utf8 name.text.toList).length % 4

/-- A name on the wire, behind a byte that counts itself, the name and the NULs. -/
def InterfaceName.bytes (name : InterfaceName) : List UInt8 :=
  UInt8.ofNat (1 + (utf8 name.text.toList).length + name.padding) ::
    (utf8 name.text.toList ++ List.replicate name.padding 0)

/-- The eight segments of an address. -/
def Ipv6Addr.bytes (addr : Ipv6Addr) : List UInt8 :=
  be16Bytes addr.s0 ++ (be16Bytes addr.s1 ++ (be16Bytes addr.s2 ++ (be16Bytes addr.s3 ++
    (be16Bytes addr.s4 ++ (be16Bytes addr.s5 ++ (be16Bytes addr.s6 ++ be16Bytes addr.s7))))))

/-- An address on the wire, behind its family and two reserved bytes. -/
def addressBytes : IpAddr → List UInt8
  | .V4 addr => be16Bytes 1 ++ (be16Bytes 0 ++ [addr.a, addr.b, addr.c, addr.d])
  | .V6 addr => be16Bytes 2 ++ (be16Bytes 0 ++ addr.bytes)

/-- The role's two bits. -/
def InterfaceRole.value : InterfaceRole → Fin 4
  | .IncomingIp => 0
  | .SubIpComponent => 1
  | .OutgoingIp => 2
  | .IpNextHop => 3

/-- What an interface information object says. -/
structure InterfaceObject where
  role : InterfaceRole
  /-- Two bits of the C-Type that are ignored. -/
  reserved : Fin 4
  if_index : Option UInt32
  ip_addr : Option IpAddr
  name : Option InterfaceName
  mtu : Option UInt32

namespace InterfaceObject

/-- The information in the object. -/
def info (object : InterfaceObject) : IcmpInterfaceInfo :=
  ⟨object.role, object.if_index, object.ip_addr, object.name.map InterfaceName.text, object.mtu⟩

/-- The C-Type: the role, the reserved bits, and one bit for each sub-object. -/
def cType (role reserved : Fin 4) (ifIndex address name mtu : Bool) : UInt8 :=
  UInt8.ofNat (role * 2^6 + reserved * 2^4 + ifIndex.toNat * 2^3 + address.toNat * 2^2 + name.toNat * 2 + mtu.toNat)

/-- The C-Type of the object. -/
def c_type (object : InterfaceObject) : UInt8 :=
  cType object.role.value object.reserved object.if_index.isSome object.ip_addr.isSome object.name.isSome
    object.mtu.isSome

/-- The sub-objects that are there, one after the other. -/
def payload (object : InterfaceObject) : List UInt8 :=
  object.if_index.elim [] be32Bytes ++ (object.ip_addr.elim [] addressBytes ++
    (object.name.elim [] InterfaceName.bytes ++ object.mtu.elim [] be32Bytes))

end InterfaceObject

/-- What the C-Type announces. -/
theorem cType_bits (role reserved : Fin 4) (ifIndex address name mtu : Bool) :
    (InterfaceObject.cType role reserved ifIndex address name mtu >>> 6) &&& 0x03 = UInt8.ofNat role ∧
    (InterfaceObject.cType role reserved ifIndex address name mtu &&& 0x08 ≠ 0 ↔ ifIndex = true) ∧
    (InterfaceObject.cType role reserved ifIndex address name mtu &&& 0x04 ≠ 0 ↔ address = true) ∧
    (InterfaceObject.cType role reserved ifIndex address name mtu &&& 0x02 ≠ 0 ↔ name = true) ∧
    (InterfaceObject.cType role reserved ifIndex address name mtu &&& 0x01 ≠ 0 ↔ mtu = true) := by
  revert role reserved ifIndex address name mtu
  decide

section

variable {c_type : UInt8} (header rest : List UInt8)

/-- A 32-bit sub-object, which a bit of the C-Type announces. -/
def subWord (mask c_type : UInt8) (obj_payload : List UInt8) (pos : ℕ) : Parse (Option (Option UInt32 × ℕ)) :=
  if c_type &&& mask ≠ 0 then
    if pos + 4 ≤ obj_payload.length then do
      return some (some (← be32 obj_payload pos), pos + 4)
    else .ok none
  else .ok (some (none, pos))

/-- A word that its bit announces is read where it stands. -/
theorem subWord_at {mask : UInt8} (word : Option UInt32) (hbit : c_type &&& mask ≠ 0 ↔ word.isSome = true) :
    subWord mask c_type (header ++ (word.elim [] be32Bytes ++ rest)) header.length =
      .ok (some (word, (header ++ word.elim [] be32Bytes).length)) := by
  cases word with
  | none =>
    rw [subWord, if_neg fun h => Bool.false_ne_true (hbit.mp h), Option.elim, List.append_nil]
  | some x =>
    have hlen : (be32Bytes x).length = 4 := rfl
    rw [subWord, if_pos (hbit.mpr rfl), Option.elim, if_pos, be32_at, ok_bind, List.length_append, hlen]
    · rfl
    · rw [List.length_append, List.length_append, hlen]
      omega

/-- An interface index that its bit announces is read where it stands. -/
theorem subIfIndex_at (if_index : Option UInt32) (hbit : c_type &&& 0x08 ≠ 0 ↔ if_index.isSome = true) :
    subIfIndex c_type (header ++ (if_index.elim [] be32Bytes ++ rest)) header.length =
      .ok (some (if_index, (header ++ if_index.elim [] be32Bytes).length)) :=
  subWord_at header rest if_index hbit

/-- An MTU that its bit announces is read where it stands. -/
theorem subMtu_at (mtu : Option UInt32) (hbit : c_type &&& 0x01 ≠ 0 ↔ mtu.isSome = true) :
    subMtu c_type (header ++ (mtu.elim [] be32Bytes ++ rest)) header.length =
      .ok (some (mtu, (header ++ mtu.elim [] be32Bytes).length)) :=
  subWord_at header rest mtu hbit

/-- An IPv4 address is read where it stands. -/
theorem readIpv4Addr_at (addr : Ipv4Addr) :
    readIpv4Addr (header ++ ([addr.a, addr.b, addr.c, addr.d] ++ rest)) header.length = .ok addr := by
  have hbyte := byte_append_add header ([addr.a, addr.b, addr.c, addr.d] ++ rest)
  have hfirst : byte (header ++ ([addr.a, addr.b, addr.c, addr.d] ++ rest)) header.length = .ok addr.a :=
    byte_at header _ addr.a
  unfold readIpv4Addr
  rw [hfirst, hbyte 1, hbyte 2, hbyte 3]
  rfl

/-- An IPv6 address is read where it stands. -/
theorem readIpv6Addr_at (addr : Ipv6Addr) :
    readIpv6Addr (header ++ (addr.bytes ++ rest)) header.length = .ok addr := by
  have hword (i : ℕ) (x : UInt16) (hx : be16 (addr.bytes ++ rest) i = .ok x) :
      be16 (header ++ (addr.bytes ++ rest)) (header.length + i) = .ok x := (be16_append_add header _ i).trans hx
  have h0 := hword 0 addr.s0 (be16_of_bytes rfl rfl)
  rw [Nat.add_zero] at h0
  unfold readIpv6Addr
  rw [h0, ok_bind, hword 2 addr.s1 (be16_of_bytes rfl rfl), ok_bind, hword 4 addr.s2 (be16_of_bytes rfl rfl), ok_bind,
    hword 6 addr.s3 (be16_of_bytes rfl rfl), ok_bind, hword 8 addr.s4 (be16_of_bytes rfl rfl), ok_bind,
    hword 10 addr.s5 (be16_of_bytes rfl rfl), ok_bind, hword 12 addr.s6 (be16_of_bytes rfl rfl), ok_bind,
    hword 14 addr.s7 (be16_of_bytes rfl rfl)]
  rfl

/-- What comes after the family of an address. -/
theorem behind_family (family : UInt16) (body : List UInt8) :
    header ++ (be16Bytes family ++ (be16Bytes 0 ++ body) ++ rest) =
      header ++ be16Bytes family ++ be16Bytes 0 ++ (body ++ rest) := by
  simp only [List.append_assoc]

/-- The family of an address and its padding are four bytes. -/
theorem length_behind_family (family : UInt16) :
    (header ++ be16Bytes family ++ be16Bytes 0).length = header.length + 4 := by
  rw [List.length_append, List.length_append]
  rfl

/-- An address that its bit announces is read where it stands. -/
theorem subIpAddress_at (ip_addr : Option IpAddr) (hbit : c_type &&& 0x04 ≠ 0 ↔ ip_addr.isSome = true) :
    subIpAddress c_type (header ++ (ip_addr.elim [] addressBytes ++ rest)) header.length =
      .ok (some (ip_addr, (header ++ ip_addr.elim [] addressBytes).length)) := by
  cases ip_addr with
  | none =>
    rw [subIpAddress, if_neg fun h => Bool.false_ne_true (hbit.mp h), Option.elim, List.append_nil]
  | some ip =>
    rw [subIpAddress, if_pos (hbit.mpr rfl), Option.elim]
    cases ip with
    | V4 addr =>
      have hfamily : be16 (header ++ (addressBytes (.V4 addr) ++ rest)) header.length = .ok 1 := be16_at header _ 1
      have hread : readIpv4Addr (header ++ (addressBytes (.V4 addr) ++ rest)) (header.length + 4) = .ok addr := by
        rw [addressBytes, behind_family, ← length_behind_family header 1]
        exact readIpv4Addr_at _ rest addr
      have hlen : (header ++ (addressBytes (.V4 addr) ++ rest)).length = header.length + (8 + rest.length) := by
        rw [List.length_append, List.length_append]
        rfl
      rw [if_pos (by rw [hlen]; omega), hfamily, ok_bind, if_pos rfl, if_pos (by rw [hlen]; omega), hread, ok_bind,
        List.length_append]
      rfl
    | V6 addr =>
      have hfamily : be16 (header ++ (addressBytes (.V6 addr) ++ rest)) header.length = .ok 2 := be16_at header _ 2
      have hread : readIpv6Addr (header ++ (addressBytes (.V6 addr) ++ rest)) (header.length + 4) = .ok addr := by
        rw [addressBytes, behind_family, ← length_behind_family header 2]
        exact readIpv6Addr_at _ rest addr
      have hlen : (header ++ (addressBytes (.V6 addr) ++ rest)).length = header.length + (20 + rest.length) := by
        rw [List.length_append, List.length_append]
        rfl
      rw [if_pos (by rw [hlen]; omega), hfamily, ok_bind, if_neg (by decide), if_pos rfl,
        if_pos (by rw [hlen]; omega), hread, ok_bind, List.length_append]
      rfl

/-- A name is its length, its text and its padding. -/
theorem InterfaceName.length_bytes (name : InterfaceName) :
    name.bytes.length = 1 + (utf8 name.text.toList).length + name.padding := by
  rw [bytes, List.length_cons, List.length_append, List.length_replicate]
  omega

/-- The byte before a name counts the bytes of the sub-object. -/
theorem InterfaceName.toNat_count (name : InterfaceName) :
    (UInt8.ofNat (1 + (utf8 name.text.toList).length + name.padding)).toNat = name.bytes.length := by
  have hfits := name.fits
  rw [toNat_ofNat, length_bytes]
  unfold padding
  omega

/-- A name that its bit announces is read where it stands. -/
theorem subName_at (name : Option InterfaceName) (hbit : c_type &&& 0x02 ≠ 0 ↔ name.isSome = true) :
    subName c_type (header ++ (name.elim [] InterfaceName.bytes ++ rest)) header.length =
      .ok (some (name.map InterfaceName.text, (header ++ name.elim [] InterfaceName.bytes).length)) := by
  cases name with
  | none =>
    rw [subName, if_neg fun h => Bool.false_ne_true (hbit.mp h), Option.elim, List.append_nil]
    rfl
  | some name =>
    rw [subName, if_pos (hbit.mpr rfl), Option.elim]
    have hpos : 1 ≤ name.bytes.length := Nat.le_add_left 1 _
    have hlen : (header ++ (name.bytes ++ rest)).length = header.length + (name.bytes.length + rest.length) := by
      rw [List.length_append, List.length_append]
    have hcount : byte (header ++ (name.bytes ++ rest)) header.length =
        .ok (UInt8.ofNat (1 + (utf8 name.text.toList).length + name.padding)) := byte_at header _ _
    have hraw : slice (header ++ (name.bytes ++ rest)) (header.length + 1) (header.length + name.bytes.length) =
        .ok (utf8 name.text.toList ++ List.replicate name.padding 0) := by
      rw [slice_ok (by omega) (by omega), ← List.append_assoc, List.take_left' (by rw [List.length_append]),
        ← List.drop_drop, List.drop_left]
      rfl
    have hname := interfaceName_utf8 name.text_ne_nil name.no_nul name.first_ne_blank name.last_ne_blank name.padding
    rw [if_pos (by omega), hcount, ok_bind, name.toNat_count]
    rw [if_pos ⟨hpos, by omega⟩, hraw, ok_bind, hname, List.length_append]
    rfl

end

/-- **Interface information:** an object is read back. -/
theorem parseInterfaceInfo_payload (object : InterfaceObject) :
    parseInterfaceInfo object.role object.c_type object.payload = .ok (some object.info) := by
  obtain ⟨-, hindex, haddress, hname, hmtu⟩ := cType_bits object.role.value object.reserved object.if_index.isSome
    object.ip_addr.isSome object.name.isSome object.mtu.isSome
  rw [← InterfaceObject.c_type] at hindex haddress hname hmtu
  obtain ⟨role, reserved, if_index, ip_addr, name, mtu⟩ := object
  obtain ⟨index, hi⟩ : ∃ index, index = if_index.elim [] be32Bytes := ⟨_, rfl⟩
  obtain ⟨address, ha⟩ : ∃ address, address = ip_addr.elim [] addressBytes := ⟨_, rfl⟩
  obtain ⟨text, ht⟩ : ∃ text, text = name.elim [] InterfaceName.bytes := ⟨_, rfl⟩
  obtain ⟨size, hs⟩ : ∃ size, size = mtu.elim [] be32Bytes := ⟨_, rfl⟩
  -- Each sub-object starts where the ones before it end.
  have h1 := subIfIndex_at [] (address ++ (text ++ size)) if_index hindex
  have h2 := subIpAddress_at index (text ++ size) ip_addr haddress
  have h3 := subName_at (index ++ address) size name hname
  have h4 := subMtu_at (index ++ address ++ text) [] mtu hmtu
  rw [List.nil_append, List.nil_append, List.length_nil, ← hi] at h1
  rw [← ha] at h2
  rw [← ht, List.append_assoc] at h3
  rw [← hs, List.append_nil, List.append_assoc, List.append_assoc] at h4
  unfold parseInterfaceInfo InterfaceObject.payload
  dsimp only
  rw [← hi, ← ha, ← ht, ← hs, h1, ok_bind]
  dsimp only
  rw [h2, ok_bind]
  dsimp only
  rw [h3, ok_bind]
  dsimp only
  rw [h4, ok_bind]
  rfl

/-- An interface object is short. -/
theorem length_payload (object : InterfaceObject) : object.payload.length ≤ 280 := by
  have hindex : (object.if_index.elim [] be32Bytes).length ≤ 4 := by
    cases object.if_index with
    | none => exact Nat.zero_le _
    | some x => exact Nat.le_refl _
  have haddress : (object.ip_addr.elim [] addressBytes).length ≤ 20 := by
    cases object.ip_addr with
    | none => exact Nat.zero_le _
    | some ip =>
      cases ip with
      | V4 addr => exact Nat.le_of_ble_eq_true rfl
      | V6 addr => exact Nat.le_refl _
  have hname : (object.name.elim [] InterfaceName.bytes).length ≤ 252 := by
    cases object.name with
    | none => exact Nat.zero_le _
    | some name =>
      have hfits := name.fits
      rw [Option.elim, name.length_bytes]
      unfold InterfaceName.padding
      omega
  have hmtu : (object.mtu.elim [] be32Bytes).length ≤ 4 := by
    cases object.mtu with
    | none => exact Nat.zero_le _
    | some x => exact Nat.le_refl _
  unfold InterfaceObject.payload
  rw [List.length_append, List.length_append, List.length_append]
  omega

/-! ## Objects -/

/-- A well-formed object: its length fits into 16 bits. -/
inductive ExtensionObject where
  | labelStack (entries : List LabelEntry) (fits : 4 * entries.length + 4 < 2^16)
  | interfaceInfo (object : InterfaceObject)
  /-- An object that is neither. -/
  | unknown (obj_class obj_type : UInt8) (payload : List UInt8)
      (not_labels : ¬(obj_class = mplsLabelStackClass ∧ obj_type = mplsLabelStackType))
      (not_interface : obj_class ≠ interfaceInfoClass) (fits : payload.length + 4 < 2^16)

namespace ExtensionObject

/-- The class and the C-Type. -/
def header : ExtensionObject → UInt8 × UInt8
  | labelStack _ _ => (mplsLabelStackClass, mplsLabelStackType)
  | interfaceInfo object => (interfaceInfoClass, object.c_type)
  | unknown obj_class obj_type _ _ _ _ => (obj_class, obj_type)

/-- What follows the object's header. -/
def payload : ExtensionObject → List UInt8
  | labelStack entries _ => stackBytes entries
  | interfaceInfo object => object.payload
  | unknown _ _ payload _ _ _ => payload

/-- The object on the wire: a 16-bit length, which counts the header too, the class and the C-Type, and the
payload. -/
def bytes (object : ExtensionObject) : List UInt8 :=
  be16Bytes (UInt16.ofNat (object.payload.length + 4)) ++ object.header.1 :: object.header.2 :: object.payload

/-- The labels in the object. -/
def labels : ExtensionObject → List MplsLabel
  | labelStack entries _ => stackLabels entries
  | _ => []

/-- The interface information in the object. -/
def info? : ExtensionObject → Option IcmpInterfaceInfo
  | interfaceInfo object => some object.info
  | _ => none

/-- A stack has four bytes for each label. -/
theorem length_stackBytes (entries : List LabelEntry) : (stackBytes entries).length = 4 * entries.length := by
  induction entries with
  | nil => rfl
  | cons entry entries ih =>
    have hword (word : UInt32) : (be32Bytes word).length = 4 := rfl
    rw [stackBytes, stackLabels, List.flatMap_cons, ← stackBytes, List.length_append, ih, hword, List.length_cons]
    omega

/-- The length of an object fits its field. -/
theorem payload_fits (object : ExtensionObject) : object.payload.length + 4 < 2^16 := by
  cases object with
  | labelStack entries fits =>
    rw [payload, length_stackBytes]
    exact fits
  | interfaceInfo object =>
    have hle := length_payload object
    rw [payload]
    omega
  | unknown obj_class obj_type payload not_labels not_interface fits => exact fits

/-- An object is its header and its payload. -/
theorem length_bytes (object : ExtensionObject) : object.bytes.length = object.payload.length + 4 := rfl

end ExtensionObject

end Ttl
