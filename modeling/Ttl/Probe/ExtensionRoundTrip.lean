import Ttl.Probe.ExtensionObjects

/-!
# Extensions are read back

`parseIcmpExtensions` against the encoding of RFC 4884: a quoted datagram that is padded to the size that the
length field of the ICMP header says, or to 128 bytes without one, then the header of the extensions and the objects
one after the other. Each object is read where the one before it ends (`parseObject_payload`), so that the walk
collects the objects in order (`parseObjects_bytes`): the labels of all stacks, and the first interface of each role.
-/

namespace Ttl

open Bytes

/-! ## One object -/

/-- The bit of a role. -/
def InterfaceRole.mask (role : InterfaceRole) : UInt8 := 1 <<< UInt8.ofNat role.value

/-- What an object adds. -/
def ExtensionObjects.collect (acc : ExtensionObjects) : ExtensionObject → ExtensionObjects
  | .labelStack entries _ => { acc with labels := acc.labels ++ stackLabels entries }
  | .interfaceInfo object =>
    if acc.seen_roles &&& object.role.mask = 0 then
      { acc with
        seen_roles := acc.seen_roles ||| object.role.mask
        interfaces := acc.interfaces ++ [object.info] }
    else acc
  | .unknown _ _ _ _ _ _ => acc

/-- A role reads back from its value. -/
theorem interfaceRole_value (role : InterfaceRole) : interfaceRole (UInt8.ofNat role.value) = .ok role := by
  cases role <;> rfl

/-- **One object:** it is read as what it was written from. -/
theorem parseObject_payload (object : ExtensionObject) (acc : ExtensionObjects) :
    parseObject object.header.1 object.header.2 object.payload acc = .ok (acc.collect object) := by
  cases object with
  | labelStack entries fits =>
    have hlabels := mplsLabels_stackBytes entries
    unfold parseObject ExtensionObject.header ExtensionObject.payload
    dsimp only
    rw [if_pos ⟨rfl, rfl⟩, hlabels, ExtensionObjects.collect]
  | interfaceInfo object =>
    have hrole : (object.c_type >>> 6) &&& 0x03 = UInt8.ofNat object.role.value := (cType_bits _ _ _ _ _ _).1
    unfold parseObject ExtensionObject.header ExtensionObject.payload
    dsimp only
    rw [if_neg fun h => absurd h.1 (by decide), if_pos rfl, hrole, ExtensionObjects.collect]
    rw [← InterfaceRole.mask, interfaceRole_value, ok_bind, parseInterfaceInfo_payload, ok_bind]
    split_ifs
    · rfl
    · rfl
  | unknown obj_class obj_type payload not_labels not_interface fits =>
    unfold parseObject ExtensionObject.header ExtensionObject.payload
    dsimp only
    rw [if_neg not_labels, if_neg not_interface, ExtensionObjects.collect]

/-! ## The walk -/

/-- **The walk:** it collects all objects, in order. -/
theorem parseObjects_bytes (before : List UInt8) (objects : List ExtensionObject) (fuel : ℕ)
    (acc : ExtensionObjects) (hfuel : objects.length < fuel) :
    parseObjects (before ++ objects.flatMap ExtensionObject.bytes) fuel before.length acc =
      .ok (objects.foldl ExtensionObjects.collect acc) := by
  induction objects generalizing before fuel acc with
  | nil =>
    obtain ⟨fuel, rfl⟩ : ∃ n, fuel = n + 1 := ⟨fuel - 1, by omega⟩
    rw [List.flatMap_nil, List.append_nil, parseObjects, if_neg (by omega)]
    rfl
  | cons object objects ih =>
    rw [List.length_cons] at hfuel
    obtain ⟨fuel, rfl⟩ : ∃ n, fuel = n + 1 := ⟨fuel - 1, by omega⟩
    obtain ⟨rest, hrest⟩ : ∃ rest, rest = objects.flatMap ExtensionObject.bytes := ⟨_, rfl⟩
    obtain ⟨ext_header, hext⟩ : ∃ ext_header, ext_header = before ++ (object.bytes ++ rest) := ⟨_, rfl⟩
    -- The reads of the object's header and of its payload, at the position where it starts.
    have hlen : ext_header.length = before.length + (object.payload.length + 4 + rest.length) := by
      rw [hext, List.length_append, List.length_append, object.length_bytes]
    have hlength : be16 ext_header before.length = .ok (UInt16.ofNat (object.payload.length + 4)) := by
      rw [hext]
      exact be16_at before _ _
    have hfits : (UInt16.ofNat (object.payload.length + 4)).toNat = object.payload.length + 4 :=
      UInt16.toNat_ofNat_of_lt' object.payload_fits
    have hclass : byte ext_header (before.length + 2) = .ok object.header.1 := by
      rw [hext, byte_append_add]
      rfl
    have htype : byte ext_header (before.length + 3) = .ok object.header.2 := by
      rw [hext, byte_append_add]
      rfl
    have hpayload : slice ext_header (before.length + 4) (before.length + (object.payload.length + 4)) =
        .ok object.payload := by
      rw [slice_ok (by omega) (by omega), hext, ← List.append_assoc,
        List.take_left' (by rw [List.length_append, object.length_bytes]), ← List.drop_drop, List.drop_left]
      rfl
    -- The next object starts behind this one.
    have hnext := ih (before ++ object.bytes) fuel (acc.collect object) (Nat.lt_of_succ_lt_succ hfuel)
    rw [List.append_assoc, ← hrest, ← hext, List.length_append, object.length_bytes] at hnext
    rw [List.flatMap_cons, ← hrest, ← hext, parseObjects, if_pos (by omega), hlength, ok_bind, hclass, ok_bind,
      htype, ok_bind, hfits]
    rw [if_neg (by omega), hpayload, ok_bind, parseObject_payload, ok_bind, hnext, List.foldl_cons]

/-- The first information of each role. -/
def firstOfRole : List IcmpInterfaceInfo → List IcmpInterfaceInfo
  | [] => []
  | info :: infos => info :: (firstOfRole infos).filter fun other => other.role ≠ info.role

/-- The bits of two roles. -/
theorem mask_and_eq_zero (role role' : InterfaceRole) : role.mask &&& role'.mask = 0 ↔ role ≠ role' := by
  cases role <;> cases role' <;> decide

/-- A role is unseen after another one if it was before and is not that one. -/
theorem unseen_or (seen : UInt8) (role role' : InterfaceRole) :
    (seen ||| role.mask) &&& role'.mask = 0 ↔ seen &&& role'.mask = 0 ∧ role ≠ role' := by
  have hdistrib : (seen ||| role.mask) &&& role'.mask = seen &&& role'.mask ||| role.mask &&& role'.mask := by
    apply UInt8.toNat_inj.mp
    simp only [UInt8.toNat_and, UInt8.toNat_or]
    exact Nat.and_or_distrib_right _ _ _
  rw [hdistrib, UInt8.or_eq_zero_iff, mask_and_eq_zero]

/-- The labels and the first interfaces are collected. -/
theorem foldl_collect (objects : List ExtensionObject) (acc : ExtensionObjects) :
    (objects.foldl ExtensionObjects.collect acc).labels = acc.labels ++ objects.flatMap ExtensionObject.labels ∧
    (objects.foldl ExtensionObjects.collect acc).interfaces =
      acc.interfaces ++ (firstOfRole (objects.filterMap ExtensionObject.info?)).filter
        fun info => acc.seen_roles &&& info.role.mask = 0 := by
  induction objects generalizing acc with
  | nil => exact ⟨(List.append_nil _).symm, (List.append_nil _).symm⟩
  | cons object objects ih =>
    obtain ⟨hlabels, hinterfaces⟩ := ih (acc.collect object)
    rw [List.foldl_cons, hlabels, hinterfaces, List.flatMap_cons, List.filterMap_cons]
    cases object with
    | labelStack entries fits => exact ⟨List.append_assoc _ _ _, rfl⟩
    | unknown obj_class obj_type payload not_labels not_interface fits => exact ⟨rfl, rfl⟩
    | interfaceInfo object =>
      have hinfo : (ExtensionObject.interfaceInfo object).info? = some object.info := rfl
      rw [hinfo, ExtensionObjects.collect]
      dsimp only
      rw [firstOfRole, List.filter_cons, List.filter_filter]
      have hrole : object.info.role = object.role := rfl
      rw [hrole]
      by_cases hunseen : acc.seen_roles &&& object.role.mask = 0
      · -- The first object of its role: the later ones of that role are dropped.
        have hlater : (fun info : IcmpInterfaceInfo => decide (acc.seen_roles &&& info.role.mask = 0) &&
              decide (info.role ≠ object.role)) =
            fun info => decide ((acc.seen_roles ||| object.role.mask) &&& info.role.mask = 0) := by
          funext info
          rw [← Bool.decide_and, decide_eq_decide, unseen_or, ne_comm]
        rw [if_pos hunseen, if_pos (decide_eq_true hunseen), hlater]
        exact ⟨rfl, List.append_assoc _ _ _⟩
      · -- The role has been seen, so that the objects of the same role are dropped already.
        have hlater : (fun info : IcmpInterfaceInfo => decide (acc.seen_roles &&& info.role.mask = 0) &&
              decide (info.role ≠ object.role)) = fun info => decide (acc.seen_roles &&& info.role.mask = 0) := by
          funext info
          rw [← Bool.decide_and, decide_eq_decide, and_iff_left_iff_imp]
          intro hinfo hsame
          exact hunseen (hsame ▸ hinfo)
        rw [if_neg hunseen, if_neg (by rw [decide_eq_false hunseen]; exact Bool.false_ne_true), hlater]
        exact ⟨rfl, rfl⟩

/-! ## The message -/

/-- The header of the extensions, of version 2. -/
structure ExtensionHeader where
  reserved : Fin (2^12)
  checksum : UInt16

/-- The header on the wire. -/
def ExtensionHeader.bytes (header : ExtensionHeader) : List UInt8 :=
  be16Bytes (UInt16.ofNat (2 * 2^12 + header.reserved)) ++ be16Bytes header.checksum

/-- The version is read back. -/
theorem ExtensionHeader.version (header : ExtensionHeader) :
    ((UInt16.ofNat (2 * 2^12 + header.reserved) >>> 8).toUInt8 >>> 4) &&& 0x0F = icmpExtVersion := by
  have hreserved := header.reserved.isLt
  have hword : (UInt16.ofNat (2 * 2^12 + header.reserved)).toNat = 2 * 2^12 + header.reserved :=
    UInt16.toNat_ofNat_of_lt' (Nat.lt_trans (Nat.add_lt_add_left hreserved _) (by decide))
  apply UInt8.toNat_inj.mp
  rw [UInt8.toNat_and, UInt8.toNat_shiftRight, UInt16.toNat_toUInt8, UInt16.toNat_shiftRight, hword]
  rw [show (0x0F : UInt8).toNat = 2^4 - 1 from rfl, show (8 : UInt16).toNat % 16 = 8 from rfl,
    show (4 : UInt8).toNat % 8 = 4 from rfl, show icmpExtVersion.toNat = 2 from rfl,
    Nat.and_two_pow_sub_one_eq_mod, Nat.shiftRight_eq_div_pow, Nat.shiftRight_eq_div_pow]
  omega

/-- The size of the quoted datagram: from the length field, in words of 32 bits for IPv4 and of 64 bits for IPv6, or
128 bytes without one. -/
def datagramSize (icmp_length : UInt8) (is_ipv6 : Bool) : ℕ :=
  if icmp_length = 0 then 128 else icmp_length.toNat * if is_ipv6 then 8 else 4

/-- What follows the ICMP header: the quoted datagram, padded with zeros, the header of the extensions, and the
objects. -/
def encodeExtensions (datagram : List UInt8) (icmp_length : UInt8) (is_ipv6 : Bool) (header : ExtensionHeader)
    (objects : List ExtensionObject) : List UInt8 :=
  datagram ++ List.replicate (datagramSize icmp_length is_ipv6 - datagram.length) 0 ++
    (header.bytes ++ objects.flatMap ExtensionObject.bytes)

/-- Extensions are looked for behind the datagram that the length field says. -/
theorem extensionStart_eq (icmp_length : UInt8) (is_ipv6 : Bool) :
    extensionStart icmp_length is_ipv6 = datagramSize icmp_length is_ipv6 := by
  unfold extensionStart datagramSize
  by_cases hzero : icmp_length = 0
  · rw [if_pos hzero, hzero, if_neg (by decide)]
    rfl
  · rw [if_neg hzero, if_pos (UInt8.pos_iff_ne_zero.mpr hzero)]
    cases is_ipv6 with
    | false => rfl
    | true => rfl

/-- Every object takes at least four bytes. -/
theorem length_le_flatMap_bytes (objects : List ExtensionObject) :
    objects.length ≤ (objects.flatMap ExtensionObject.bytes).length := by
  induction objects with
  | nil => exact Nat.zero_le _
  | cons object objects ih =>
    rw [List.flatMap_cons, List.length_append, object.length_bytes, List.length_cons]
    omega

/-- **Round trip:** the extensions are read back, with the labels in order and the first information of each role. -/
theorem parseIcmpExtensions_encode (datagram : List UInt8) (icmp_length : UInt8) (is_ipv6 : Bool)
    (header : ExtensionHeader) (objects : List ExtensionObject)
    (hsize : datagram.length ≤ datagramSize icmp_length is_ipv6) :
    parseIcmpExtensions (encodeExtensions datagram icmp_length is_ipv6 header objects) icmp_length is_ipv6 =
      .ok ⟨nonempty (objects.flatMap ExtensionObject.labels),
        nonempty (firstOfRole (objects.filterMap ExtensionObject.info?))⟩ := by
  obtain ⟨padded, hpadded⟩ : ∃ padded,
      padded = datagram ++ List.replicate (datagramSize icmp_length is_ipv6 - datagram.length) 0 := ⟨_, rfl⟩
  obtain ⟨ext_header, hext⟩ : ∃ ext_header,
      ext_header = header.bytes ++ objects.flatMap ExtensionObject.bytes := ⟨_, rfl⟩
  have hstart : padded.length = datagramSize icmp_length is_ipv6 := by
    rw [hpadded, List.length_append, List.length_replicate]
    omega
  have hheader : header.bytes.length = 4 := rfl
  have hlen : ext_header.length = 4 + (objects.flatMap ExtensionObject.bytes).length := by
    rw [hext, List.length_append, hheader]
  have hfirst : byte ext_header 0 = .ok (UInt16.ofNat (2 * 2^12 + header.reserved) >>> 8).toUInt8 := by
    rw [hext]
    rfl
  have hfuel := length_le_flatMap_bytes objects
  have hwalk := parseObjects_bytes header.bytes objects ext_header.length ⟨[], [], 0⟩ (by omega)
  obtain ⟨hlabels, hinterfaces⟩ := foldl_collect objects ⟨[], [], 0⟩
  have hunseen : (fun info : IcmpInterfaceInfo => decide ((0 : UInt8) &&& info.role.mask = 0)) = fun _ => true := by
    funext info
    rw [UInt8.zero_and]
    rfl
  dsimp only at hlabels hinterfaces
  rw [List.nil_append] at hlabels hinterfaces
  rw [hunseen, List.filter_eq_self.mpr fun _ _ => rfl] at hinterfaces
  rw [encodeExtensions, ← hpadded, ← hext]
  unfold parseIcmpExtensions
  rw [extensionStart_eq]
  dsimp only
  rw [if_neg (by rw [List.length_append]; omega), dropFrom_append _ hstart, ok_bind, hfirst, ok_bind,
    header.version, if_neg fun h => h rfl]
  rw [← hext, hheader] at hwalk
  rw [hwalk, ok_bind, hlabels, hinterfaces]
  rfl

/-- The name of an interface. -/
def loopback : InterfaceName where
  text := "lo"
  text_ne_nil := by decide
  no_nul := by decide
  first_ne_blank := by
    rintro c ⟨⟩
    rfl
  last_ne_blank := by
    rintro c ⟨⟩
    rfl
  fits := by decide

/-- A label stack between an unknown object and two objects of one role. -/
def mixedObjects : List ExtensionObject :=
  [.interfaceInfo ⟨.OutgoingIp, ⟨0, by decide⟩, some 7, some (.V4 ⟨10, 0, 0, 1⟩), some loopback, none⟩,
    .labelStack [⟨⟨100, by decide⟩, ⟨1, by decide⟩, 64⟩, ⟨⟨200, by decide⟩, ⟨0, by decide⟩, 1⟩] (by decide),
    .unknown 9 1 [1, 2, 3] (by decide) (by decide) (by decide),
    .interfaceInfo ⟨.OutgoingIp, ⟨0, by decide⟩, none, none, none, some 1500⟩]

/-- Two labels and an interface read back from an IPv4 error. -/
theorem parseIcmpExtensions_encode_mixed :
    parseIcmpExtensions (encodeExtensions [0x45, 0, 0, 84] 2 false ⟨0, 0⟩ mixedObjects) 2 false =
      .ok ⟨some [⟨100, 1, false, 64⟩, ⟨200, 0, true, 1⟩],
        some [⟨.OutgoingIp, some 7, some (.V4 ⟨10, 0, 0, 1⟩), some "lo", none⟩]⟩ :=
  parseIcmpExtensions_encode _ _ _ _ _ (by decide)

end Ttl
