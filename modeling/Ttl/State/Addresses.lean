import Ttl.Lib.Text
import Ttl.State.Types

/-!
# Addresses as text

`Display` of `std::net::IpAddr`: four decimal octets, or eight hexadecimal segments of which the longest run of zeros
is left out. Different addresses have different texts (`IpAddr.text_injective`).
-/

namespace Ttl

open Text

namespace Ipv4Addr

/-- `Display`. -/
def text (addr : Ipv4Addr) : List Char := List.intercalate ['.'] (addr.octets.map fun o => nat o.toNat)

end Ipv4Addr

namespace Ipv6Addr

/-- `to_ipv4_mapped`: the address in the last two segments of `::ffff:0:0`. -/
def toIpv4Mapped (addr : Ipv6Addr) : Option Ipv4Addr :=
  if addr.s0 = 0 ∧ addr.s1 = 0 ∧ addr.s2 = 0 ∧ addr.s3 = 0 ∧ addr.s4 = 0 ∧ addr.s5 = 0xFFFF then
    some ⟨(addr.s6 >>> 8).toUInt8, addr.s6.toUInt8, (addr.s7 >>> 8).toUInt8, addr.s7.toUInt8⟩
  else none

/-- A span of segments. -/
structure Span where
  start : ℕ
  len : ℕ
deriving DecidableEq

/-- One segment, in the search for the longest span of zeros. -/
def scanZeros (spans : Span × Span) (segment : UInt16) (i : ℕ) : Span × Span :=
  let (longest, current) := spans
  if segment = 0 then
    let current : Span := ⟨if current.len = 0 then i else current.start, current.len + 1⟩
    (if longest.len < current.len then current else longest, current)
  else (longest, ⟨0, 0⟩)

/-- The longest span of zeros, the first one of several. -/
def zeros (segments : List UInt16) : Span :=
  (segments.zipIdx.foldl (fun spans e => scanZeros spans e.1 e.2) (⟨0, 0⟩, ⟨0, 0⟩)).1

/-- `fmt_subslice`. -/
def joinSegments (chunk : List UInt16) : List Char := List.intercalate [':'] (chunk.map fun s => hex s.toNat)

/-- `Display`. -/
def text (addr : Ipv6Addr) : List Char :=
  match addr.toIpv4Mapped with
  | some ipv4 => "::ffff:".toList ++ ipv4.text
  | none =>
    let z := zeros addr.segments
    if 1 < z.len then
      joinSegments (addr.segments.take z.start) ++ "::".toList ++
        joinSegments (addr.segments.drop (z.start + z.len))
    else joinSegments addr.segments

end Ipv6Addr

/-- `Display`. -/
def IpAddr.text : IpAddr → List Char
  | .V4 addr => addr.text
  | .V6 addr => addr.text

example : (IpAddr.V6 ⟨0x2001, 0xdb8, 0, 0, 1, 0, 0, 1⟩).text = "2001:db8::1:0:0:1".toList := by decide +kernel

/-! ## Four octets -/

/-- A number has no character that is no digit. -/
theorem not_mem_nat {c : Char} (hc : c.isDigit = false) (n : ℕ) : c ∉ nat n := by
  intro h
  rw [isDigit_of_mem_nat h] at hc
  cases hc

namespace Ipv4Addr

/-- IPv4 addresses are told apart by their texts. -/
theorem text_injective : Function.Injective text := by
  have hsplit : ∀ addr : Ipv4Addr, addr.text.splitOn '.' = addr.octets.map fun o => nat o.toNat := by
    intro addr
    refine List.splitOn_intercalate '.' ?_ (List.cons_ne_nil _ _)
    intro l hl
    obtain ⟨o, -, rfl⟩ := List.mem_map.mp hl
    exact not_mem_nat rfl _
  intro x y h
  have hoctets : x.octets.map (fun o => nat o.toNat) = y.octets.map fun o => nat o.toNat := by
    rw [← hsplit, ← hsplit, h]
  have hinj : Function.Injective fun o : UInt8 => nat o.toNat :=
    fun a b hab => UInt8.toNat_inj.mp (nat_injective hab)
  have heq := List.map_injective_iff.mpr hinj hoctets
  cases x
  cases y
  simpa [octets] using heq

/-- The characters of a text are digits and points. -/
theorem of_mem_text {addr : Ipv4Addr} {c : Char} (h : c ∈ addr.text) : c.isDigit ∨ c = '.' := by
  obtain hc | ⟨l, hl, hc⟩ := mem_intercalate h
  · exact .inr (List.mem_singleton.mp hc)
  · obtain ⟨o, -, rfl⟩ := List.mem_map.mp hl
    exact .inl (isDigit_of_mem_nat hc)

/-- The text of an IPv4 address has a point. -/
theorem point_mem_text (addr : Ipv4Addr) : '.' ∈ addr.text := by
  unfold text octets
  rw [List.map_cons, List.map_cons, List.intercalate_cons_cons]
  exact List.mem_append_left _ (List.mem_append_right _ (List.mem_singleton_self _))

/-- The text of an IPv4 address has no colon. -/
theorem colon_notMem_text (addr : Ipv4Addr) : ':' ∉ addr.text := by
  intro h
  obtain h | h := of_mem_text h
  · exact absurd h (by decide)
  · exact absurd h (by decide)

end Ipv4Addr

/-! ## Eight segments -/

namespace Ipv6Addr

/-- The segments of a span are zeros. -/
def Span.Zeros (z : Span) (segments : List UInt16) : Prop :=
  z.start + z.len ≤ segments.length ∧ ∀ i, z.start ≤ i → i < z.start + z.len → segments[i]? = some 0

/-- One more segment, at the end of the current span. -/
theorem scanZeros_spec {segments : List UInt16} {spans : Span × Span} {segment : UInt16} {i : ℕ}
    (hat : segments[i]? = some segment) (hlongest : spans.1.Zeros segments) (hcurrent : spans.2.Zeros segments)
    (hend : spans.2.len = 0 ∨ spans.2.start + spans.2.len = i) :
    (scanZeros spans segment i).1.Zeros segments ∧ (scanZeros spans segment i).2.Zeros segments ∧
      ((scanZeros spans segment i).2.len = 0 ∨
        (scanZeros spans segment i).2.start + (scanZeros spans segment i).2.len = i + 1) := by
  obtain ⟨longest, current⟩ := spans
  unfold scanZeros
  dsimp only at hlongest hcurrent hend ⊢
  by_cases hzero : segment = 0
  · subst hzero
    have hlt : i < segments.length := (List.getElem?_eq_some_iff.mp hat).1
    have hstart : (if current.len = 0 then i else current.start) + (current.len + 1) = i + 1 := by
      split_ifs <;> omega
    have hnew : Span.Zeros ⟨if current.len = 0 then i else current.start, current.len + 1⟩ segments := by
      refine ⟨by rw [hstart]; exact hlt, fun j hle hj => ?_⟩
      dsimp only at hle hj
      obtain rfl | hne := eq_or_ne j i
      · exact hat
      · -- An earlier segment is one of the span so far.
        refine hcurrent.2 j ?_ ?_ <;> split_ifs at hle hj <;> omega
    rw [if_pos rfl]
    refine ⟨?_, hnew, .inr hstart⟩
    dsimp only
    by_cases hlonger : longest.len < current.len + 1
    · rw [if_pos hlonger]
      exact hnew
    · rw [if_neg hlonger]
      exact hlongest
  · rw [if_neg hzero]
    exact ⟨hlongest, ⟨Nat.zero_le _, fun j _ hj => absurd hj (Nat.not_lt_zero j)⟩, .inl rfl⟩

/-- The longest span is one of zeros. -/
theorem zeros_spec (segments : List UInt16) : (zeros segments).Zeros segments := by
  have hscan : ∀ (rest : List UInt16) (i : ℕ) (spans : Span × Span), segments.drop i = rest →
      spans.1.Zeros segments → spans.2.Zeros segments → (spans.2.len = 0 ∨ spans.2.start + spans.2.len = i) →
      (((rest.zipIdx i).foldl (fun spans e => scanZeros spans e.1 e.2) spans).1).Zeros segments := by
    intro rest
    induction rest with
    | nil => exact fun i spans _ hlongest _ _ => hlongest
    | cons segment rest ih =>
      intro i spans hdrop hlongest hcurrent hend
      have hat : segments[i]? = some segment := by rw [← List.head?_drop, hdrop, List.head?_cons]
      have hrest : segments.drop (i + 1) = rest := by rw [← List.tail_drop, hdrop, List.tail_cons]
      obtain ⟨hlongest', hcurrent', hend'⟩ := scanZeros_spec hat hlongest hcurrent hend
      exact ih (i + 1) _ hrest hlongest' hcurrent' hend'
  have hempty : Span.Zeros ⟨0, 0⟩ segments := ⟨Nat.zero_le _, fun j _ hj => absurd hj (Nat.not_lt_zero j)⟩
  exact hscan segments 0 _ rfl hempty hempty (.inl rfl)

/-- Without its span of zeros, an address has the zeros to be filled in. -/
theorem segments_eq (segments : List UInt16) :
    segments = segments.take (zeros segments).start ++ List.replicate (zeros segments).len 0 ++
      segments.drop ((zeros segments).start + (zeros segments).len) := by
  obtain ⟨hle, hzeros⟩ := zeros_spec segments
  have hspan : (segments.drop (zeros segments).start).take (zeros segments).len =
      List.replicate (zeros segments).len 0 := by
    refine List.eq_replicate_iff.mpr ⟨?_, fun s hs => ?_⟩
    · rw [List.length_take, List.length_drop]
      omega
    · obtain ⟨i, hi, rfl⟩ := List.getElem_of_mem hs
      rw [List.length_take] at hi
      have hat := hzeros ((zeros segments).start + i) (Nat.le_add_right _ _) (by omega)
      rw [List.getElem_take, List.getElem_drop]
      exact (List.getElem?_eq_some_iff.mp hat).2
  rw [← hspan, ← List.drop_drop, List.append_assoc, List.take_append_drop, List.take_append_drop]

/-- The pieces of a text between its colons, as the segments that they stand for: an empty piece stands for the zeros
that are left out. -/
def ofPieces (pieces : List (List Char)) : List ℕ :=
  if pieces.contains [] then
    let before := pieces.takeWhile (· ≠ [])
    let after := (pieces.reverse.takeWhile (· ≠ [])).reverse
    before.map ofHexChars ++ List.replicate (8 - before.length - after.length) 0 ++ after.map ofHexChars
  else pieces.map ofHexChars

/-- An IPv6 address has eight segments. -/
theorem length_segments (addr : Ipv6Addr) : addr.segments.length = 8 := rfl

/-- A hexadecimal number has no colon. -/
theorem colon_notMem_hex (n : ℕ) : ':' ∉ hex n := by
  intro h
  obtain ⟨d, hd, hc⟩ := exists_digitChar_of_mem_hex h
  revert d
  decide

/-- A hexadecimal number has no point. -/
theorem point_notMem_hex (n : ℕ) : '.' ∉ hex n := by
  intro h
  obtain ⟨d, hd, hc⟩ := exists_digitChar_of_mem_hex h
  revert d
  decide

/-- The hexadecimal texts of segments. -/
def pieces (chunk : List UInt16) : List (List Char) := chunk.map fun s => hex s.toNat

/-- No piece of a chunk is empty. -/
theorem ne_nil_of_mem_pieces {chunk : List UInt16} {piece : List Char} (h : piece ∈ pieces chunk) : piece ≠ [] := by
  obtain ⟨s, -, rfl⟩ := List.mem_map.mp h
  exact hex_ne_nil _

/-- The pieces of a chunk read back as its segments. -/
theorem map_ofHexChars_pieces (chunk : List UInt16) : (pieces chunk).map ofHexChars = chunk.map UInt16.toNat := by
  unfold pieces
  rw [List.map_map]
  exact List.map_congr_left fun s _ => ofHexChars_hex _

/-- A joined chunk is split into its pieces at the colons. -/
theorem splitOn_joinSegments {chunk : List UInt16} (h : chunk ≠ []) :
    (joinSegments chunk).splitOn ':' = pieces chunk := by
  refine List.splitOn_intercalate ':' ?_ (List.map_eq_nil_iff.not.mpr h)
  intro l hl
  obtain ⟨s, -, rfl⟩ := List.mem_map.mp hl
  exact colon_notMem_hex _

/-- What is before and after the zeros, or one empty piece. -/
theorem splitOn_joinSegments_cases (chunk : List UInt16) :
    (joinSegments chunk).splitOn ':' = if chunk = [] then [[]] else pieces chunk := by
  split_ifs with h
  · subst h
    rfl
  · exact splitOn_joinSegments h

/-- The pieces before the gap are those of the chunk before it. -/
theorem takeWhile_pieces (chunk : List UInt16) (rest : List (List Char)) :
    ((if chunk = [] then [[]] else pieces chunk) ++ [] :: rest).takeWhile (· ≠ []) = pieces chunk := by
  split_ifs with h
  · subst h
    rfl
  · rw [List.takeWhile_append_of_pos]
    · rw [List.takeWhile_cons_of_neg (by decide), List.append_nil]
    · intro piece hmem
      exact decide_eq_true (ne_nil_of_mem_pieces hmem)

/-- What the pieces around an empty one stand for. -/
theorem ofPieces_compressed (before after : List UInt16) :
    ofPieces ((if before = [] then [[]] else pieces before) ++ [] :: if after = [] then [[]] else pieces after) =
      before.map UInt16.toNat ++ List.replicate (8 - before.length - after.length) 0 ++ after.map UInt16.toNat := by
  have hafter : ∀ chunk : List UInt16, (if chunk = [] then [[]] else pieces chunk.reverse) =
      (if chunk = [] then [[]] else pieces chunk).reverse := by
    intro chunk
    unfold pieces
    split_ifs
    · rfl
    · rw [List.map_reverse]
  have hreverse : (((if before = [] then [[]] else pieces before) ++
      [] :: if after = [] then [[]] else pieces after).reverse.takeWhile (· ≠ [])).reverse = pieces after := by
    rw [List.reverse_append, List.reverse_cons, List.append_assoc, List.singleton_append, ← hafter]
    have htake := takeWhile_pieces after.reverse (if before = [] then [[]] else pieces before).reverse
    simp only [List.reverse_eq_nil_iff] at htake
    rw [htake, pieces, List.map_reverse, List.reverse_reverse, pieces]
  have hmem : [] ∈ (if before = [] then [[]] else pieces before) ++
      [] :: if after = [] then [[]] else pieces after :=
    List.mem_append_right _ List.mem_cons_self
  unfold ofPieces
  rw [if_pos (List.contains_iff_mem.mpr hmem)]
  dsimp only
  rw [takeWhile_pieces, hreverse, map_ofHexChars_pieces, map_ofHexChars_pieces, pieces, pieces, List.length_map,
    List.length_map]

/-- The pieces of the text of an address stand for its segments. -/
theorem ofPieces_text {addr : Ipv6Addr} (h : addr.toIpv4Mapped = none) :
    ofPieces (addr.text.splitOn ':') = addr.segments.map UInt16.toNat := by
  unfold text
  rw [h]
  dsimp only
  by_cases hlen : 1 < (zeros addr.segments).len
  · -- The zeros between both parts are as many as are left out.
    have hzeros := zeros_spec addr.segments
    have hcount : 8 - (addr.segments.take (zeros addr.segments).start).length -
        (addr.segments.drop ((zeros addr.segments).start + (zeros addr.segments).len)).length =
          (zeros addr.segments).len := by
      have hle := hzeros.1
      rw [length_segments] at hle
      rw [List.length_take, List.length_drop, length_segments]
      omega
    have hcolons : "::".toList = [':', ':'] := rfl
    rw [if_pos hlen, hcolons, List.append_assoc, List.cons_append, List.singleton_append,
      List.splitOn_append_cons_self, ← List.nil_append (':' :: joinSegments _), List.splitOn_append_cons_self,
      List.splitOn_nil, List.singleton_append, splitOn_joinSegments_cases, splitOn_joinSegments_cases,
      ofPieces_compressed, hcount]
    conv_rhs => rw [segments_eq addr.segments]
    rw [List.map_append, List.map_append, List.map_replicate]
    rfl
  · have hnone : ([] : List Char) ∉ pieces addr.segments := fun hmem => ne_nil_of_mem_pieces hmem rfl
    have hne : addr.segments ≠ [] := List.cons_ne_nil _ _
    rw [if_neg hlen, splitOn_joinSegments hne, ofPieces, if_neg (List.contains_iff_mem.not.mpr hnone),
      map_ofHexChars_pieces]

/-- Only the text of a mapped address has a point. -/
theorem point_notMem_text {addr : Ipv6Addr} (h : addr.toIpv4Mapped = none) : '.' ∉ addr.text := by
  have hjoin : ∀ chunk : List UInt16, '.' ∉ joinSegments chunk := by
    intro chunk hmem
    obtain hc | ⟨l, hl, hc⟩ := mem_intercalate hmem
    · exact absurd hc (by decide)
    · obtain ⟨s, -, rfl⟩ := List.mem_map.mp hl
      exact point_notMem_hex _ hc
  unfold text
  rw [h]
  dsimp only
  split_ifs
  · intro hmem
    rw [List.mem_append, List.mem_append] at hmem
    obtain (hc | hc) | hc := hmem
    · exact hjoin _ hc
    · exact absurd hc (by decide)
    · exact hjoin _ hc
  · exact hjoin _

/-- The text of an IPv6 address has a colon. -/
theorem colon_mem_text (addr : Ipv6Addr) : ':' ∈ addr.text := by
  unfold text
  cases addr.toIpv4Mapped with
  | some ipv4 => exact List.mem_append_left _ (by decide)
  | none =>
    dsimp only
    split_ifs
    · exact List.mem_append_left _ (List.mem_append_right _ (by decide))
    · unfold joinSegments segments
      rw [List.map_cons, List.map_cons, List.intercalate_cons_cons]
      exact List.mem_append_left _ (List.mem_append_right _ (List.mem_singleton_self _))

/-- An address is told by its segments. -/
theorem segments_injective : Function.Injective segments := by
  intro x y h
  cases x
  cases y
  simpa [segments] using h

/-- The last two segments of a mapped address are its octets. -/
theorem eq_of_toIpv4Mapped {x y : Ipv6Addr} {ipv4 : Ipv4Addr} (hx : x.toIpv4Mapped = some ipv4)
    (hy : y.toIpv4Mapped = some ipv4) : x = y := by
  have hhalves : ∀ s t : UInt16, (s >>> 8).toUInt8 = (t >>> 8).toUInt8 → s.toUInt8 = t.toUInt8 → s = t := by
    intro s t hhigh hlow
    have hhigh' := congrArg UInt8.toNat hhigh
    have hlow' := congrArg UInt8.toNat hlow
    have hs := s.toNat_lt
    have ht := t.toNat_lt
    rw [UInt16.toNat_toUInt8, UInt16.toNat_toUInt8, UInt16.toNat_shiftRight, UInt16.toNat_shiftRight,
      show (8 : UInt16).toNat % 16 = 8 from rfl, Nat.shiftRight_eq_div_pow, Nat.shiftRight_eq_div_pow] at hhigh'
    rw [UInt16.toNat_toUInt8, UInt16.toNat_toUInt8] at hlow'
    refine UInt16.toNat_inj.mp ?_
    omega
  unfold toIpv4Mapped at hx hy
  split_ifs at hx hy with hxs hys
  obtain ⟨hx0, hx1, hx2, hx3, hx4, hx5⟩ := hxs
  obtain ⟨hy0, hy1, hy2, hy3, hy4, hy5⟩ := hys
  have heq := hx.trans hy.symm
  rw [Option.some.injEq, Ipv4Addr.mk.injEq] at heq
  obtain ⟨ha, hb, hc, hd⟩ := heq
  have h6 := hhalves _ _ ha hb
  have h7 := hhalves _ _ hc hd
  cases x
  cases y
  simp only at hx0 hx1 hx2 hx3 hx4 hx5 hy0 hy1 hy2 hy3 hy4 hy5 h6 h7
  simp only [hx0, hx1, hx2, hx3, hx4, hx5, hy0, hy1, hy2, hy3, hy4, hy5, h6, h7]

/-- IPv6 addresses are told apart by their texts. -/
theorem text_injective : Function.Injective text := by
  intro x y h
  cases hx : x.toIpv4Mapped with
  | none =>
    cases hy : y.toIpv4Mapped with
    | none =>
      have hmap : x.segments.map UInt16.toNat = y.segments.map UInt16.toNat := by
        rw [← ofPieces_text hx, ← ofPieces_text hy, h]
      refine segments_injective (List.map_injective_iff.mpr ?_ hmap)
      exact fun a b hab => UInt16.toNat_inj.mp hab
    | some ipv4 =>
      have hpoint : '.' ∈ y.text := by
        rw [text, hy]
        exact List.mem_append_right _ ipv4.point_mem_text
      exact absurd (h ▸ hpoint) (point_notMem_text hx)
  | some ipv4 =>
    have htext : x.text = "::ffff:".toList ++ ipv4.text := by rw [text, hx]
    cases hy : y.toIpv4Mapped with
    | none =>
      have hpoint : '.' ∈ x.text := by
        rw [htext]
        exact List.mem_append_right _ ipv4.point_mem_text
      exact absurd (h ▸ hpoint) (point_notMem_text hy)
    | some ipv4' =>
      have htext' : y.text = "::ffff:".toList ++ ipv4'.text := by rw [text, hy]
      have hsame : ipv4 = ipv4' := by
        rw [htext, htext'] at h
        exact Ipv4Addr.text_injective (List.append_cancel_left h)
      exact eq_of_toIpv4Mapped hx (hsame ▸ hy)

end Ipv6Addr

/-- The characters of a text are letters, digits, points and colons. -/
theorem IpAddr.of_mem_text {addr : IpAddr} {c : Char} (h : c ∈ addr.text) : c.isAlphanum ∨ c = '.' ∨ c = ':' := by
  have hoctets : ∀ ipv4 : Ipv4Addr, c ∈ ipv4.text → c.isAlphanum ∨ c = '.' ∨ c = ':' := by
    intro ipv4 hc
    obtain hdigit | hpoint := Ipv4Addr.of_mem_text hc
    · exact .inl (by rw [Char.isAlphanum, hdigit, Bool.or_true])
    · exact .inr (.inl hpoint)
  have hjoin : ∀ chunk : List UInt16, c ∈ Ipv6Addr.joinSegments chunk → c.isAlphanum ∨ c = '.' ∨ c = ':' := by
    intro chunk hmem
    obtain hc | ⟨l, hl, hc⟩ := mem_intercalate hmem
    · exact .inr (.inr (List.mem_singleton.mp hc))
    · obtain ⟨s, -, rfl⟩ := List.mem_map.mp hl
      obtain ⟨d, hd, rfl⟩ := exists_digitChar_of_mem_hex hc
      refine .inl ?_
      clear hc hmem hl h hoctets
      revert d
      decide
  cases addr with
  | V4 a => exact hoctets a h
  | V6 a =>
    change c ∈ a.text at h
    unfold Ipv6Addr.text at h
    split at h
    · obtain hc | hc := List.mem_append.mp h
      · have hprefix : ("::ffff:".toList.all fun c => c.isAlphanum ∨ c = '.' ∨ c = ':') = true := by decide
        exact of_decide_eq_true (List.all_eq_true.mp hprefix c hc)
      · exact hoctets _ hc
    · dsimp only at h
      split_ifs at h
      · rw [List.mem_append, List.mem_append] at h
        obtain (hc | hc) | hc := h
        · exact hjoin _ hc
        · exact .inr (.inr (by simpa using hc))
        · exact hjoin _ hc
      · exact hjoin _ h

/-- **Different addresses have different texts.** -/
theorem IpAddr.text_injective : Function.Injective IpAddr.text := by
  have hmixed : ∀ (a : Ipv4Addr) (b : Ipv6Addr), a.text ≠ b.text := by
    intro a b h
    have hcolon := b.colon_mem_text
    rw [← h] at hcolon
    exact a.colon_notMem_text hcolon
  intro x y h
  cases x with
  | V4 a =>
    cases y with
    | V4 b => rw [Ipv4Addr.text_injective h]
    | V6 b => exact absurd h (hmixed a b)
  | V6 a =>
    cases y with
    | V4 b => exact absurd h.symm (hmixed b a)
    | V6 b => rw [Ipv6Addr.text_injective h]

end Ttl
