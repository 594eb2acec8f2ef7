import Ttl.Lib.Fields
import Ttl.Lib.Lists
import Ttl.Lookup.Cache
import Ttl.Probe.Names
import Ttl.State.Addresses
import Ttl.State.Enrichment

/-!
# The number of an address's network

`AsnLookup::do_lookup` of `src/lookup/asn.rs` asks the DNS two questions, for the network that announces an address and
for the name of that network, each by a name that the question is written into, and reads the fields of the text that
comes back. `Registry` is the service it asks, by what the comments of the source say of its answers. `queries_spec` says
that no two questions have a name in common, so that the service can tell them apart, and `doLookup_of_serves` that the
lookup finds what the service knows, however the text is cut into strings, quoted and spaced.
-/

namespace Ttl

open Text

namespace Asn

/-! ## Questions -/

/-- The four hexadecimal digits of a segment. -/
def segmentNibbles (segment : UInt16) : List UInt16 :=
  [segment >>> 12 &&& 0xF, segment >>> 8 &&& 0xF, segment >>> 4 &&& 0xF, segment &&& 0xF]

/-- `build_ipv4_origin_query`: the octets in reverse. -/
def buildIpv4OriginQuery (ip : Ipv4Addr) : List Char :=
  List.intercalate ['.'] (ip.octets.reverse.map fun o => nat o.toNat) ++ ".origin.asn.cymru.com".toList

/-- `build_ipv6_origin_query`: the digits in reverse. -/
def buildIpv6OriginQuery (ip : Ipv6Addr) : List Char :=
  let nibbles := (ip.segments.flatMap segmentNibbles).reverse
  let nibble_str := List.intercalate ['.'] (nibbles.map fun n => hex n.toNat)
  nibble_str ++ ".origin6.asn.cymru.com".toList

/-- `build_origin_query`. -/
def buildOriginQuery : IpAddr → List Char
  | .V4 ip => buildIpv4OriginQuery ip
  | .V6 ip => buildIpv6OriginQuery ip

/-- The name of the second question. -/
def asNameQuery (asn : UInt32) : List Char := "AS".toList ++ nat asn.toNat ++ ".asn.cymru.com".toList

/-! ## Answers -/

/-- A record of an answer. Only TXT records are read. -/
inductive RData where
  | TXT (txt_data : List (List UInt8))
  | other
deriving DecidableEq

/-- The strings of a TXT record. -/
def RData.txt? : RData → Option (List (List UInt8))
  | TXT txt_data => some txt_data
  | other => none

/-- What a resolver answers to a TXT query for a name, unless it fails. -/
abbrev Resolver : Type := List Char → Option (List RData)

/-- `std::str::from_utf8`. -/
def fromUtf8 (bytes : List UInt8) : Option (List Char) := (String.fromUTF8? bytes.toByteArray).map String.toList

/-- The text of the first TXT record. A string that is no UTF-8 is left out, and quotes at the ends are too. -/
def txtStr (records : List RData) : Option (List Char) :=
  (records.findSome? RData.txt?).map fun txt_data =>
    Fields.strip (· = '"') (txt_data.filterMap fromUtf8).flatten

/-- The parts of a text, trimmed. -/
def parts (txt_str : List Char) : List (List Char) := Fields.read '|' isWhitespace txt_str

/-- `trim_start_matches("AS")`. -/
def trimStartAs : List Char → List Char
  | 'A' :: 'S' :: rest => trimStartAs rest
  | s => s

/-- `str::parse::<u32>`: decimal digits, after a plus sign or none. -/
def parseU32 (s : List Char) : Option UInt32 :=
  let digits := if s.head? = some '+' then s.tail else s
  if digits = [] ∨ ¬ digits.all Char.isDigit then none
  else if Nat.ofDigitChars 10 digits 0 < 2^32 then some (UInt32.ofNat (Nat.ofDigitChars 10 digits 0)) else none

/-- `lookup_as_name`. -/
def lookupAsName (resolver : Resolver) (asn : UInt32) : Option (List Char) := do
  let txt_records ← resolver (asNameQuery asn)
  let txt_str ← txtStr txt_records
  (parts txt_str)[4]?.map sanitizeDisplay

/-- `do_lookup`. -/
def doLookup (resolver : Resolver) (ip : IpAddr) : Option AsnInfo := do
  let txt_records ← resolver (buildOriginQuery ip)
  let txt_str ← txtStr txt_records
  let asn_str := Fields.strip isWhitespace (trimStartAs ((parts txt_str)[0]?.getD []))
  let asn_number ← parseU32 asn_str
  some
    { number := asn_number
      name := (lookupAsName resolver asn_number).getD ("AS".toList ++ nat asn_number.toNat)
      network := (parts txt_str)[2]? }

example : doLookup (fun name => if name = "8.8.8.8.origin.asn.cymru.com".toList then
    some [.other, .TXT [utf8 "15169 | 8.8.8.8 ".toList, utf8 "| 8.8.8.0/24 | US".toList]] else none)
    (.V4 ⟨8, 8, 8, 8⟩) = some ⟨15169, "AS15169".toList, some "8.8.8.0/24".toList⟩ := by
  decide +kernel

/-! ## Names that are questions -/

/-- What is asked. -/
inductive Question where
  | origin (ip : IpAddr)
  | asName (asn : UInt32)
deriving DecidableEq

namespace Question

/-- The name that it is asked by. -/
def name : Question → List Char
  | origin ip => buildOriginQuery ip
  | asName asn => asNameQuery asn

/-- The labels of the name. -/
def labels : Question → List (List Char)
  | origin (.V4 ip) => ip.octets.reverse.map (fun o => nat o.toNat) ++
      ["origin".toList, "asn".toList, "cymru".toList, "com".toList]
  | origin (.V6 ip) => (ip.segments.flatMap segmentNibbles).reverse.map (fun n => hex n.toNat) ++
      ["origin6".toList, "asn".toList, "cymru".toList, "com".toList]
  | asName asn => ["AS".toList ++ nat asn.toNat, "asn".toList, "cymru".toList, "com".toList]

/-- A name is made of its labels, with points between them. -/
theorem name_eq (q : Question) : q.name = List.intercalate ['.'] q.labels := by
  have hjoin (before after : List (List Char)) (hbefore : before ≠ []) (hafter : after ≠ []) (text : List Char)
      (htext : text = '.' :: List.intercalate ['.'] after) :
      List.intercalate ['.'] before ++ text = List.intercalate ['.'] (before ++ after) := by
    rw [Lists.intercalate_append hbefore hafter, htext, List.append_assoc, List.singleton_append]
  match q with
  | origin (.V4 ip) => exact hjoin _ _ (List.map_eq_nil_iff.not.mpr (List.cons_ne_nil _ _)) (List.cons_ne_nil _ _) _ rfl
  | origin (.V6 ip) =>
    refine hjoin _ _ ?_ (List.cons_ne_nil _ _) _ rfl
    rw [ne_eq, List.map_eq_nil_iff, List.reverse_eq_nil_iff]
    exact List.cons_ne_nil _ _
  | asName asn =>
    have hfirst := hjoin ["AS".toList ++ nat asn.toNat] ["asn".toList, "cymru".toList, "com".toList]
      (List.cons_ne_nil _ _) (List.cons_ne_nil _ _) ".asn.cymru.com".toList rfl
    rwa [List.intercalate_singleton] at hfirst

end Question

/-- A label that the DNS accepts, of letters and digits. -/
def IsLabel (label : List Char) : Prop := label ≠ [] ∧ label.length ≤ 63 ∧ label.all Char.isAlphanum = true

instance (label : List Char) : Decidable (IsLabel label) := inferInstanceAs (Decidable (_ ∧ _ ∧ _))

/-- The low half of a byte, as a number. -/
theorem toNat_nibble (x : UInt16) : (x &&& 0xF).toNat = x.toNat % 16 := by
  rw [UInt16.toNat_and]
  exact Nat.and_two_pow_sub_one_eq_mod x.toNat 4

/-- A segment is its four digits. -/
theorem segmentNibbles_injective : Function.Injective segmentNibbles := by
  intro x y h
  have hshift (x : UInt16) : (x >>> 12).toNat = x.toNat / 2^12 ∧ (x >>> 8).toNat = x.toNat / 2^8 ∧
      (x >>> 4).toNat = x.toNat / 2^4 := by
    simp only [UInt16.toNat_shiftRight, Nat.shiftRight_eq_div_pow]
    exact ⟨rfl, rfl, rfl⟩
  obtain ⟨hx12, hx8, hx4⟩ := hshift x
  obtain ⟨hy12, hy8, hy4⟩ := hshift y
  simp only [segmentNibbles, List.cons.injEq, and_true, ← UInt16.toNat_inj, toNat_nibble, hx12, hx8, hx4, hy12, hy8,
    hy4] at h
  have hx := x.toNat_lt
  have hy := y.toNat_lt
  rw [← UInt16.toNat_inj]
  omega

/-- The nibbles of a segment are below sixteen. -/
theorem lt_of_mem_segmentNibbles {segment n : UInt16} (h : n ∈ segmentNibbles segment) : n.toNat < 16 := by
  have hlt (x : UInt16) : (x &&& 0xF).toNat < 16 := by
    rw [toNat_nibble]
    exact Nat.mod_lt _ (by decide)
  rw [segmentNibbles, List.mem_cons, List.mem_cons, List.mem_cons, List.mem_singleton] at h
  rcases h with rfl | rfl | rfl | rfl
  · exact hlt _
  · exact hlt _
  · exact hlt _
  · exact hlt _

/-- A decimal number has digits only. -/
theorem isAlphanum_of_mem_nat {n : ℕ} {c : Char} (h : c ∈ nat n) : c.isAlphanum = true := by
  rw [Char.isAlphanum, isDigit_of_mem_nat h, Bool.or_true]

/-- A number below a power of ten has no more digits than that. -/
theorem length_nat_le {n k : ℕ} (hk : 0 < k) (hn : n < 10^k) : (nat n).length ≤ k :=
  (Nat.length_toDigits_le_iff (by decide) hk).mpr hn

/-- A number below sixteen has one hexadecimal digit. -/
theorem length_hex_le_one {n : ℕ} (hn : n < 16) : (hex n).length ≤ 1 :=
  (Nat.length_toDigits_le_iff (by decide) Nat.one_pos).mpr hn

namespace Question

/-- Every label of a name is valid. -/
theorem isLabel_of_mem (q : Question) {label : List Char} (h : label ∈ q.labels) : IsLabel label := by
  have hsuffix : ∀ label ∈ ["origin6".toList, "origin".toList, "asn".toList, "cymru".toList, "com".toList],
      IsLabel label := by decide
  match q with
  | origin (.V4 ip) =>
    rcases List.mem_append.mp h with h | h
    · obtain ⟨o, -, rfl⟩ := List.mem_map.mp h
      have hlength := length_nat_le (k := 3) (by decide) (o.toNat_lt.trans (by decide : 2^8 < 10^3))
      exact ⟨nat_ne_nil _, hlength.trans (by decide), List.all_eq_true.mpr fun c => isAlphanum_of_mem_nat⟩
    · exact hsuffix label (List.mem_cons_of_mem _ h)
  | origin (.V6 ip) =>
    rcases List.mem_append.mp h with h | h
    · obtain ⟨n, hn, rfl⟩ := List.mem_map.mp h
      obtain ⟨segment, -, hn⟩ := List.mem_flatMap.mp (List.mem_reverse.mp hn)
      have hdigit : ∀ d < 16, (Nat.digitChar d).isAlphanum = true := by decide
      refine ⟨hex_ne_nil _, (length_hex_le_one (lt_of_mem_segmentNibbles hn)).trans (by decide),
        List.all_eq_true.mpr fun c hc => ?_⟩
      obtain ⟨d, hd, rfl⟩ := exists_digitChar_of_mem_hex hc
      exact hdigit d hd
    · refine hsuffix label ?_
      rw [List.mem_cons] at h ⊢
      exact h.imp_right (List.mem_cons_of_mem _)
  | asName asn =>
    rcases List.mem_cons.mp h with rfl | h
    · have hlength := length_nat_le (k := 10) (by decide) (asn.toNat_lt.trans (by decide : 2^32 < 10^10))
      have hmark : ("AS".toList).all Char.isAlphanum = true := by decide
      have hdigits : (nat asn.toNat).all Char.isAlphanum = true := List.all_eq_true.mpr fun c => isAlphanum_of_mem_nat
      refine ⟨List.cons_ne_nil _ _, ?_, by rw [List.all_append, hmark, hdigits, Bool.and_true]⟩
      rw [List.length_append]
      exact (Nat.add_le_add_left hlength 2).trans (by decide)
    · exact hsuffix label (List.mem_cons_of_mem _ (List.mem_cons_of_mem _ h))

/-- No name is too long. -/
theorem length_name_le (q : Question) : q.name.length ≤ 253 := by
  match q with
  | origin (.V4 ip) =>
    have hoctet : ∀ part ∈ ip.octets.reverse.map fun o => nat o.toNat, part.length ≤ 3 := by
      intro part hpart
      obtain ⟨o, -, rfl⟩ := List.mem_map.mp hpart
      exact length_nat_le (by decide) (o.toNat_lt.trans (by decide))
    have hle := @Lists.length_intercalate_le _ ['.'] _ 3 hoctet
    rw [List.length_map, List.length_reverse] at hle
    rw [name, buildOriginQuery, buildIpv4OriginQuery, List.length_append]
    exact (Nat.add_le_add_right hle _).trans (by decide : 4 * 4 + 21 ≤ 253)
  | origin (.V6 ip) =>
    have hdigit : ∀ part ∈ (ip.segments.flatMap segmentNibbles).reverse.map fun n => hex n.toNat, part.length ≤ 1 := by
      intro part hpart
      obtain ⟨n, hn, rfl⟩ := List.mem_map.mp hpart
      obtain ⟨segment, -, hn⟩ := List.mem_flatMap.mp (List.mem_reverse.mp hn)
      exact length_hex_le_one (lt_of_mem_segmentNibbles hn)
    have hle := @Lists.length_intercalate_le _ ['.'] _ 1 hdigit
    rw [List.length_map, List.length_reverse] at hle
    rw [name, buildOriginQuery, buildIpv6OriginQuery, List.length_append]
    exact (Nat.add_le_add_right hle _).trans (by decide : 32 * 2 + 22 ≤ 253)
  | asName asn =>
    have hle := length_nat_le (k := 10) (by decide) (asn.toNat_lt.trans (by decide : 2^32 < 10^10))
    rw [name, asNameQuery, List.length_append, List.length_append]
    exact (Nat.add_le_add_right (Nat.add_le_add_left hle _) _).trans (by decide : 2 + 10 + 14 ≤ 253)

/-- A question is known by its labels. -/
theorem labels_injective : Function.Injective labels := by
  intro q r h
  have hlength := congrArg List.length h
  match q, r with
  | origin (.V4 ip), origin (.V4 ip') =>
    have hreverse := List.map_injective_iff.mpr (fun a b hab => UInt8.toNat_inj.mp (nat_injective hab))
      (List.append_cancel_right h)
    have hoctets := List.reverse_injective hreverse
    cases ip
    cases ip'
    simpa [Ipv4Addr.octets] using hoctets
  | origin (.V6 ip), origin (.V6 ip') =>
    have hreverse := List.map_injective_iff.mpr (fun a b hab => UInt16.toNat_inj.mp (hex_injective hab))
      (List.append_cancel_right h)
    have hsegments := Lists.flatMap_injective (n := 4) (by decide) (fun _ => rfl) segmentNibbles_injective
      (List.reverse_injective hreverse)
    rw [Ipv6Addr.segments_injective hsegments]
  | asName asn, asName asn' =>
    obtain ⟨hfirst, -⟩ := List.cons.inj h
    rw [UInt32.toNat_inj.mp (nat_injective (List.append_cancel_left hfirst))]
  -- Questions of different kinds have different numbers of labels.
  | origin (.V4 _), origin (.V6 _) => cases hlength
  | origin (.V6 _), origin (.V4 _) => cases hlength
  | origin (.V4 _), asName _ => cases hlength
  | asName _, origin (.V4 _) => cases hlength
  | origin (.V6 _), asName _ => cases hlength
  | asName _, origin (.V6 _) => cases hlength

/-- A name is split into its labels at the points. -/
theorem splitOn_name (q : Question) : q.name.splitOn '.' = q.labels := by
  have hne : q.labels ≠ [] := by
    match q with
    | origin (.V4 ip) => exact List.cons_ne_nil _ _
    | origin (.V6 ip) => exact List.append_ne_nil_of_right_ne_nil _ (List.cons_ne_nil _ _)
    | asName asn => exact List.cons_ne_nil _ _
  rw [name_eq]
  refine List.splitOn_intercalate '.' (fun label hlabel hpoint => ?_) hne
  exact absurd (List.all_eq_true.mp (q.isLabel_of_mem hlabel).2.2 '.' hpoint) (by decide)

/-- A question is known by its name. -/
theorem name_injective : Function.Injective name := by
  intro q r h
  exact labels_injective (by rw [← splitOn_name, h, splitOn_name])

end Question

/-- **The questions:** no two have the same name, and each name is one that the DNS accepts. -/
theorem queries_spec :
    Function.Injective Question.name ∧
      ∀ q : Question, q.name.length ≤ 253 ∧ ∀ label ∈ q.name.splitOn '.', IsLabel label := by
  refine ⟨Question.name_injective, fun q => ⟨q.length_name_le, fun label hlabel => ?_⟩⟩
  rw [Question.splitOn_name] at hlabel
  exact q.isLabel_of_mem hlabel

/-! ## Texts that are answers -/

/-- A text is decoded from its own bytes. -/
theorem fromUtf8_utf8 (text : List Char) : fromUtf8 (utf8 text) = some text := by
  have hvalid : (utf8 text).toByteArray.IsValidUTF8 := .intro text rfl
  rw [fromUtf8, String.fromUTF8?, dif_pos hvalid]
  exact congrArg some String.toList_ofList

/-- A resolver answers to a name with a text of the fields, in the strings of the first TXT record. The text may be cut
into strings between any two characters, in quotes or not, and the fields may have blanks around them. A cut inside a
character of several bytes is left out here: it makes two strings that are no UTF-8, and `txtStr` leaves out both. -/
def Answers (resolver : Resolver) (name : List Char) (fields : List (List Char)) : Prop :=
  ∃ records, ∃ strings : List (List Char), ∃ text before after, resolver name = some records ∧
    records.findSome? RData.txt? = some (strings.map utf8) ∧
    strings.flatten = List.replicate before '"' ++ text ++ List.replicate after '"' ∧
    Fields.Bare (· = '"') text ∧ Fields.Writes '|' isWhitespace text fields

/-- A field that can be told from what is around it. -/
def IsField (field : List Char) : Prop := Fields.Bare isWhitespace field ∧ '|' ∉ field

instance (field : List Char) : Decidable (IsField field) := inferInstanceAs (Decidable (_ ∧ _))

/-- An answer is read as its fields. -/
theorem parts_of_answers {resolver : Resolver} {name : List Char} {fields : List (List Char)}
    (h : Answers resolver name fields) (hne : fields ≠ []) (hfields : ∀ field ∈ fields, IsField field) :
    ∃ records txt_str, resolver name = some records ∧ txtStr records = some txt_str ∧ parts txt_str = fields := by
  obtain ⟨records, strings, text, before, after, hresolver, htxt, hflatten, hbare, hwrites⟩ := h
  have hquote (k : ℕ) : ∀ c ∈ List.replicate k '"', decide (c = '"') = true :=
    fun c hc => decide_eq_true (List.eq_of_mem_replicate hc)
  have hdecode : (strings.map utf8).filterMap fromUtf8 = strings := by
    rw [List.filterMap_map]
    exact (List.filterMap_congr fun string _ => fromUtf8_utf8 string).trans List.filterMap_some
  refine ⟨records, text, hresolver, ?_, ?_⟩
  · rw [txtStr, htxt, Option.map_some, hdecode, hflatten, Fields.strip_append (hquote before) hbare (hquote after)]
  · exact Fields.read_of_writes (by decide) hwrites hne (fun field hfield => (hfields field hfield).1)
      fun field hfield => (hfields field hfield).2

/-! ## Numbers -/

/-- The number of a network, with the mark before it or without. -/
def asnText (marked : Bool) (asn : UInt32) : List Char := if marked then "AS".toList ++ nat asn.toNat else nat asn.toNat

/-- No letter and no digit is a blank. -/
theorem isWhitespace_eq_false {c : Char} (hc : c.isAlphanum = true) : isWhitespace c = false := by
  have hupper : c.isUpper = true → 65 ≤ c.toNat ∧ c.toNat ≤ 90 := fun h =>
    (decide_eq_true_iff.mp h).imp UInt32.le_iff_toNat_le.mp UInt32.le_iff_toNat_le.mp
  have hlower : c.isLower = true → 97 ≤ c.toNat ∧ c.toNat ≤ 122 := fun h => by
    obtain ⟨hfrom, hto⟩ := Bool.and_eq_true_iff.mp h
    exact ⟨UInt32.le_iff_toNat_le.mp (of_decide_eq_true hfrom), UInt32.le_iff_toNat_le.mp (of_decide_eq_true hto)⟩
  have hdigit : c.isDigit = true → 48 ≤ c.toNat ∧ c.toNat ≤ 57 := Char.isDigit_iff_toNat.mp
  have hrange : (65 ≤ c.toNat ∧ c.toNat ≤ 90) ∨ (97 ≤ c.toNat ∧ c.toNat ≤ 122) ∨ (48 ≤ c.toNat ∧ c.toNat ≤ 57) := by
    rcases Bool.or_eq_true_iff.mp hc with halpha | hd
    · exact (Bool.or_eq_true_iff.mp halpha).imp hupper fun h => .inl (hlower h)
    · exact .inr (.inr (hdigit hd))
  have hblank : ∀ n ∈ [0x20, 0x85, 0xA0, 0x1680, 0x2028, 0x2029, 0x202F, 0x205F, 0x3000], n ≤ 32 ∨ 123 ≤ n := by decide
  rw [isWhitespace, decide_eq_false_iff_not]
  rintro (hcontrol | hmem | hspace)
  · omega
  · have hn := hblank c.toNat hmem
    omega
  · omega

/-- A text of letters and digits is a field. -/
theorem isField_of_isAlphanum {field : List Char} (h : ∀ c ∈ field, c.isAlphanum = true) : IsField field := by
  refine ⟨⟨fun c hc => isWhitespace_eq_false (h c (List.mem_of_mem_head? hc)),
    fun c hc => isWhitespace_eq_false (h c (List.mem_of_mem_getLast? hc))⟩, fun hmem => ?_⟩
  exact absurd (h '|' hmem) (by decide)

/-- The number of a network has letters and digits only. -/
theorem isAlphanum_of_mem_asnText {marked : Bool} {asn : UInt32} {c : Char} (h : c ∈ asnText marked asn) :
    c.isAlphanum = true := by
  have hmark : ("AS".toList).all Char.isAlphanum = true := by decide
  unfold asnText at h
  split_ifs at h
  · exact (List.mem_append.mp h).elim (List.all_eq_true.mp hmark c) isAlphanum_of_mem_nat
  · exact isAlphanum_of_mem_nat h

/-- A number that is not marked keeps all its digits. -/
theorem trimStartAs_nat (n : ℕ) : trimStartAs (nat n) = nat n := by
  obtain ⟨c, rest, hcons⟩ := List.exists_cons_of_ne_nil (nat_ne_nil n)
  have hdigit : c.isDigit = true := isDigit_of_mem_nat (hcons ▸ List.mem_cons_self)
  rw [hcons]
  unfold trimStartAs
  split
  · next heq =>
    rw [(List.cons.inj heq).1] at hdigit
    exact absurd hdigit (by decide)
  · rfl

/-- The number is read back. -/
theorem parseU32_nat (asn : UInt32) : parseU32 (nat asn.toNat) = some asn := by
  have hplus : (nat asn.toNat).head? ≠ some '+' := by
    intro hhead
    exact absurd (isDigit_of_mem_nat (List.mem_of_mem_head? hhead)) (by decide)
  have hdigits : ¬ (nat asn.toNat = [] ∨ ¬ (nat asn.toNat).all Char.isDigit = true) := by
    rw [not_or, not_not, List.all_eq_true]
    exact ⟨nat_ne_nil _, fun c => isDigit_of_mem_nat⟩
  unfold parseU32
  dsimp only
  rw [if_neg hplus, if_neg hdigits, ofDigitChars_nat, if_pos asn.toNat_lt, UInt32.ofNat_toNat]

/-- The number of a network reads back, marked or not. -/
theorem parseU32_asnText (marked : Bool) (asn : UInt32) :
    parseU32 (Fields.strip isWhitespace (trimStartAs (asnText marked asn))) = some asn := by
  have htrim : trimStartAs (asnText marked asn) = nat asn.toNat := by
    unfold asnText
    split_ifs
    · exact trimStartAs_nat _
    · exact trimStartAs_nat _
  have hbare := (isField_of_isAlphanum fun c => isAlphanum_of_mem_nat (n := asn.toNat)).1
  have hblank : ∀ c ∈ ([] : List Char), isWhitespace c = true := fun c hc => absurd hc List.not_mem_nil
  have hstrip := Fields.strip_append hblank hbare hblank
  rw [List.nil_append, List.append_nil] at hstrip
  rw [htrim, hstrip, parseU32_nat]

/-! ## Registries -/

/-- What a registry has of an address: `AS | IP | BGP Prefix | CC | Registry | Allocated`. -/
structure Origin where
  number : UInt32
  address : List Char
  network : List Char
  cc : List Char
  registry : List Char
  allocated : List Char
  isField : ∀ field ∈ [address, network, cc, registry, allocated], IsField field

/-- What a registry has of a network: `AS | CC | Registry | Allocated | AS Name`. -/
structure AsRecord where
  cc : List Char
  registry : List Char
  allocated : List Char
  name : List Char
  isField : ∀ field ∈ [cc, registry, allocated, name], IsField field

/-- A registry, of the addresses and the networks that it knows. -/
structure Registry where
  origin : IpAddr → Option Origin
  asName : UInt32 → Option AsRecord

namespace Registry

variable (registry : Registry)

/-- The number that a question is answered with, and the other fields. -/
def record : Question → Option (UInt32 × List (List Char))
  | .origin ip => (registry.origin ip).map fun o => (o.number, [o.address, o.network, o.cc, o.registry, o.allocated])
  | .asName asn => (registry.asName asn).map fun r => (asn, [r.cc, r.registry, r.allocated, r.name])

/-- A resolver by which the registry is asked. Of what the registry does not know there is no answer. -/
def Serves (resolver : Resolver) : Prop :=
  ∀ q : Question, match registry.record q with
    | some (number, fields) => ∃ marked, Answers resolver q.name (asnText marked number :: fields)
    | none => (resolver q.name).bind txtStr = none

/-- What the registry knows of an address. A network without a name has its number for one. -/
def lookup (ip : IpAddr) : Option AsnInfo :=
  (registry.origin ip).map fun o =>
    { number := o.number
      name := ((registry.asName o.number).map fun r => sanitizeDisplay r.name).getD ("AS".toList ++ nat o.number.toNat)
      network := some o.network }

variable {registry}

/-- The fields of a record are fields. -/
theorem isField_of_record {q : Question} {number : UInt32} {fields : List (List Char)}
    (h : registry.record q = some (number, fields)) : ∀ field ∈ fields, IsField field := by
  match q with
  | .origin ip =>
    obtain ⟨o, -, ho⟩ := Option.map_eq_some_iff.mp h
    rw [← (Prod.mk.inj ho).2]
    exact o.isField
  | .asName asn =>
    obtain ⟨r, -, hr⟩ := Option.map_eq_some_iff.mp h
    rw [← (Prod.mk.inj hr).2]
    exact r.isField

/-- What the lookup reads of an answer. -/
theorem Serves.parts {resolver : Resolver} (h : registry.Serves resolver) {q : Question} {number : UInt32}
    {fields : List (List Char)} (hrecord : registry.record q = some (number, fields)) :
    ∃ records txt_str marked, resolver q.name = some records ∧ txtStr records = some txt_str ∧
      Asn.parts txt_str = asnText marked number :: fields := by
  have hq := h q
  rw [hrecord] at hq
  obtain ⟨marked, hanswers⟩ := hq
  have hfirst : IsField (asnText marked number) := isField_of_isAlphanum fun c => isAlphanum_of_mem_asnText
  obtain ⟨records, txt_str, hresolver, htxt, hparts⟩ := parts_of_answers hanswers (List.cons_ne_nil _ _)
    (List.forall_mem_cons.mpr ⟨hfirst, isField_of_record hrecord⟩)
  exact ⟨records, txt_str, marked, hresolver, htxt, hparts⟩

/-- The name of a network is what the registry knows, sanitized. -/
theorem Serves.lookupAsName {resolver : Resolver} (h : registry.Serves resolver) (asn : UInt32) :
    Asn.lookupAsName resolver asn = (registry.asName asn).map fun r => sanitizeDisplay r.name := by
  rw [Asn.lookupAsName]
  match hname : registry.asName asn with
  | some r =>
    have hrecord : registry.record (.asName asn) = some (asn, [r.cc, r.registry, r.allocated, r.name]) := by
      rw [record, hname, Option.map_some]
    obtain ⟨records, txt_str, marked, hresolver, htxt, hparts⟩ := h.parts hrecord
    rw [Question.name] at hresolver
    simp only [hresolver, htxt, hparts, Option.bind_eq_bind, Option.bind_some]
    rfl
  | none =>
    have hq := h (.asName asn)
    rw [record, hname] at hq
    have hnone : ((resolver (asNameQuery asn)).bind txtStr) = none := hq
    simp only [Option.bind_eq_bind, ← Option.bind_assoc, hnone, Option.bind_none, Option.map_none]

/-- A line of a registry: fields with a blank after each. -/
def line (fields : List (List Char)) : List Char := List.intercalate ['|'] (fields.map (· ++ [' ']))

/-- A line is written as its fields. -/
theorem writes_line (fields : List (List Char)) : Fields.Writes '|' isWhitespace (line fields) fields := by
  refine ⟨_, rfl, List.forall₂_map_left_iff.mpr (List.forall₂_same.mpr fun field _ => ⟨[], [' '], rfl, ?_, ?_⟩)⟩
  · exact fun c hc => absurd hc List.not_mem_nil
  · exact List.forall_mem_singleton.mpr rfl

/-- A line begins as its first field. -/
theorem head?_line {field : List Char} (hne : field ≠ []) (fields : List (List Char)) :
    (line (field :: fields)).head? = field.head? := by
  unfold line
  cases fields with
  | nil => rw [List.map_cons, List.map_nil, List.intercalate_singleton, List.head?_append_of_ne_nil _ hne]
  | cons next fields =>
    rw [List.map_cons, List.map_cons, List.intercalate_cons_cons, List.append_assoc, List.append_assoc,
      List.head?_append_of_ne_nil _ hne]

/-- A line ends with a blank. -/
theorem getLast?_line (field : List Char) (fields : List (List Char)) :
    (line (field :: fields)).getLast? = some ' ' := by
  unfold line
  induction fields generalizing field with
  | nil => rw [List.map_cons, List.map_nil, List.intercalate_singleton, List.getLast?_concat]
  | cons next fields ih =>
    have hnext := ih next
    rw [List.map_cons] at hnext
    rw [List.map_cons, List.map_cons, List.intercalate_cons_cons, List.getLast?_append, hnext, Option.some_or]

/-- No line of an answer begins or ends with a quote. -/
theorem bare_line (number : UInt32) (fields : List (List Char)) :
    Fields.Bare (· = '"') (line (asnText false number :: fields)) := by
  refine ⟨fun c hc => ?_, fun c hc => ?_⟩
  · have hhead : (line (asnText false number :: fields)).head? = (asnText false number).head? :=
      head?_line (nat_ne_nil _) fields
    rw [hhead] at hc
    have halphanum := isAlphanum_of_mem_asnText (List.mem_of_mem_head? hc)
    refine decide_eq_false fun hquote => ?_
    rw [hquote] at halphanum
    exact absurd halphanum (by decide)
  · rw [getLast?_line, Option.mem_some_iff] at hc
    rw [← hc]
    decide

/-- The resolver that answers each question with one line. -/
noncomputable def resolver (registry : Registry) : Resolver := fun name =>
  open Classical in
  if h : ∃ q : Question, q.name = name then
    (registry.record h.choose).map fun r => [.TXT [utf8 (line (asnText false r.1 :: r.2))]]
  else none

/-- The resolver of a registry answers to a name with the record of its question. -/
theorem resolver_name (registry : Registry) (q : Question) :
    registry.resolver q.name = (registry.record q).map fun r => [.TXT [utf8 (line (asnText false r.1 :: r.2))]] := by
  have hexists : ∃ r : Question, r.name = q.name := ⟨q, rfl⟩
  have hchoose : hexists.choose = q := Question.name_injective hexists.choose_spec
  rw [resolver, dif_pos hexists, hchoose]

/-- Every registry can be served. -/
theorem serves_resolver (registry : Registry) : registry.Serves registry.resolver := by
  intro q
  have hname := registry.resolver_name q
  match hrecord : registry.record q with
  | none =>
    rw [hrecord, Option.map_none] at hname
    exact hname ▸ rfl
  | some (number, fields) =>
    rw [hrecord, Option.map_some] at hname
    refine ⟨false, _, [line (asnText false number :: fields)], _, 0, 0, hname, rfl, ?_, bare_line number fields,
      writes_line _⟩
    rw [List.flatten_singleton, List.replicate_zero, List.nil_append, List.append_nil]

end Registry

/-- **Lookups:** a lookup finds what the registry knows of the address, whichever resolver it asks by. -/
theorem doLookup_of_serves (registry : Registry) (resolver : Resolver) (h : registry.Serves resolver) (ip : IpAddr) :
    doLookup resolver ip = registry.lookup ip := by
  rw [doLookup, Registry.lookup]
  match horigin : registry.origin ip with
  | some o =>
    have hrecord : registry.record (.origin ip) =
        some (o.number, [o.address, o.network, o.cc, o.registry, o.allocated]) := by
      rw [Registry.record, horigin, Option.map_some]
    obtain ⟨records, txt_str, marked, hresolver, htxt, hparts⟩ := h.parts hrecord
    rw [Question.name] at hresolver
    simp only [hresolver, htxt, hparts, Option.bind_eq_bind, Option.bind_some, List.getElem?_cons_zero, Option.getD_some,
      parseU32_asnText, h.lookupAsName]
    rfl
  | none =>
    have hq := h (.origin ip)
    rw [Registry.record, horigin] at hq
    have hnone : ((resolver (buildOriginQuery ip)).bind txtStr) = none := hq
    simp only [Option.bind_eq_bind, ← Option.bind_assoc, hnone, Option.bind_none, Option.map_none]

/-- A registry with one network. -/
def sampleRegistry : Registry where
  origin ip := if ip = .V4 ⟨8, 8, 8, 8⟩ then
    some ⟨15169, "8.8.8.8".toList, "8.8.8.0/24".toList, "US".toList, "arin".toList, "1992-12-01".toList, by decide⟩
  else none
  asName asn := if asn = 15169 then
    some ⟨"US".toList, "arin".toList, "2000-03-30".toList, "GOOGLE, US".toList, by decide⟩
  else none

/-- The answer for an address of the sample registry. -/
theorem doLookup_of_serves_sample :
    doLookup sampleRegistry.resolver (.V4 ⟨8, 8, 8, 8⟩) =
      some ⟨15169, "GOOGLE, US".toList, some "8.8.8.0/24".toList⟩ :=
  (doLookup_of_serves _ _ sampleRegistry.serves_resolver _).trans (by decide)

end Asn

end Ttl
