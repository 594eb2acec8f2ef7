import Mathlib.Data.Nat.Bitwise

/-!
# Reading and writing bytes

A parser of packets indexes into slices, and an index out of range is a panic and not a rejected packet.
`Parse` keeps the two apart. `byte`, `be16`, `be32`, `slice` and `dropFrom` are the reads, with one
lemma each that says when they succeed, and `be16Bytes` and `be32Bytes` the writes that the reads undo.

What a network quotes of a packet is cut somewhere and followed by other bytes. `StartsWith data n
packet` says that `data` begins with the first `n` bytes of `packet`, and reads below `n` are then reads
of the packet.
-/

namespace Bytes

/-- How a parser stops without a result. -/
inductive ParseStop where
  /-- The packet is not accepted. -/
  | reject
  /-- An index was out of range. -/
  | panic
  /-- A bounded loop reached its bound. -/
  | fuel
deriving DecidableEq, Repr

/-- A parser's result. -/
abbrev Parse (α : Type) := Except ParseStop α

/-- `data[i]`. -/
def byte (data : List UInt8) (i : ℕ) : Parse UInt8 :=
  match data[i]? with
  | some b => .ok b
  | none => .error .panic

/-- `u16::from_be_bytes`. -/
def fromBe16 (hi lo : UInt8) : UInt16 := hi.toUInt16 <<< 8 ||| lo.toUInt16

/-- `u32::from_be_bytes`, of two halves. -/
def fromBe32 (hi lo : UInt16) : UInt32 := hi.toUInt32 <<< 16 ||| lo.toUInt32

/-- The 16-bit word at `i`. -/
def be16 (data : List UInt8) (i : ℕ) : Parse UInt16 := do
  return fromBe16 (← byte data i) (← byte data (i + 1))

/-- The 32-bit word at `i`. -/
def be32 (data : List UInt8) (i : ℕ) : Parse UInt32 := do
  return fromBe32 (← be16 data i) (← be16 data (i + 2))

/-- `data[i..j]`. -/
def slice (data : List UInt8) (i j : ℕ) : Parse (List UInt8) :=
  if i ≤ j ∧ j ≤ data.length then .ok ((data.take j).drop i) else .error .panic

/-- `data[i..]`. -/
def dropFrom (data : List UInt8) (i : ℕ) : Parse (List UInt8) :=
  if i ≤ data.length then .ok (data.drop i) else .error .panic

/-- `u16::to_be_bytes`. -/
def be16Bytes (x : UInt16) : List UInt8 := [(x >>> 8).toUInt8, x.toUInt8]

/-- `u32::to_be_bytes`. -/
def be32Bytes (x : UInt32) : List UInt8 := be16Bytes (x >>> 16).toUInt16 ++ be16Bytes x.toUInt16

/-- `buffer` with `bytes` from `i` on, in the place of as many of its own. -/
def writeAt (buffer : List UInt8) (i : ℕ) (bytes : List UInt8) : List UInt8 :=
  buffer.take i ++ bytes ++ buffer.drop (i + bytes.length)

/-- A result is handed on. -/
theorem ok_bind {α β : Type} (a : α) (f : α → Parse β) : (Except.ok a : Parse α) >>= f = f a := rfl

/-- A rejection ends the parser. -/
theorem reject_bind {α β : Type} (f : α → Parse β) :
    (Except.error .reject : Parse α) >>= f = .error .reject := rfl

/-- A result of a sequence is one of its second part, on a result of its first. -/
theorem bind_eq_ok {α β : Type} {p : Parse α} {f : α → Parse β} {b : β} :
    p >>= f = .ok b ↔ ∃ a, p = .ok a ∧ f a = .ok b := by
  cases p with
  | error e => exact ⟨nofun, nofun⟩
  | ok a => exact ⟨fun h => ⟨a, rfl, h⟩, fun ⟨_, ha, h⟩ => by cases ha; exact h⟩

/-! ## Parsers that always end

`Succeeds` is for a part that has a result on every input, and `Safe` for one that may also reject. The
two rules follow the parser's text: a result of the first part is handed to the second. -/

/-- The parser has a result. -/
def Succeeds {α : Type} (p : Parse α) : Prop := ∃ a, p = .ok a

/-- The parser has a result or rejects: no panic, and no bound reached. -/
def Safe {α : Type} (p : Parse α) : Prop := p = .error .reject ∨ Succeeds p

section

variable {α β : Type} {p : Parse α} {f : α → Parse β}

/-- A result is one. -/
theorem Succeeds.ok (a : α) : Succeeds (Except.ok a : Parse α) := ⟨a, rfl⟩

/-- A sequence has a result when its second part has one on every result of the first. -/
theorem Succeeds.bind (hp : Succeeds p) (hf : ∀ a, p = .ok a → Succeeds (f a)) :
    Succeeds (p >>= f) := by
  obtain ⟨a, rfl⟩ := hp
  exact hf a rfl

/-- A rejection is no panic. -/
theorem Safe.reject : Safe (Except.error .reject : Parse α) := .inl rfl

/-- A result is none either. -/
theorem Safe.ok (a : α) : Safe (Except.ok a : Parse α) := .inr ⟨a, rfl⟩

/-- A parser that always has a result is safe. -/
theorem Succeeds.safe (hp : Succeeds p) : Safe p := .inr hp

/-- A sequence is safe when its second part is safe on every result of the first. -/
theorem Safe.bind (hp : Safe p) (hf : ∀ a, p = .ok a → Safe (f a)) : Safe (p >>= f) := by
  obtain rfl | ⟨a, rfl⟩ := hp
  · exact Safe.reject
  · exact hf a rfl

end

/-! ## When a read succeeds -/

section

variable {data : List UInt8} {i : ℕ}

/-- An index in range is read. -/
theorem byte_ok (h : i < data.length) : byte data i = .ok data[i] := by
  simp only [byte, List.getElem?_eq_getElem h]

/-- A read of a byte in range has a result. -/
theorem byte_succeeds (h : i < data.length) : Succeeds (byte data i) := ⟨_, byte_ok h⟩

/-- A word whose two bytes are in range is read. -/
theorem be16_succeeds (h : i + 1 < data.length) : Succeeds (be16 data i) :=
  (byte_succeeds (by omega)).bind fun _ _ => (byte_succeeds h).bind fun _ _ => Succeeds.ok _

/-- A word whose four bytes are in range is read. -/
theorem be32_succeeds (h : i + 3 < data.length) : Succeeds (be32 data i) :=
  (be16_succeeds (by omega)).bind fun _ _ => (be16_succeeds (by omega)).bind fun _ _ => Succeeds.ok _

/-- A slice whose ends are in order and in range is taken. -/
theorem slice_ok {j : ℕ} (hij : i ≤ j) (hj : j ≤ data.length) :
    slice data i j = .ok ((data.take j).drop i) :=
  if_pos ⟨hij, hj⟩

/-- What follows an index in range is taken. -/
theorem dropFrom_ok (h : i ≤ data.length) : dropFrom data i = .ok (data.drop i) :=
  if_pos h

end

/-! ## Reads undo writes -/

/-- The value of a word, by its two bytes. -/
theorem toNat_fromBe16 (hi lo : UInt8) : (fromBe16 hi lo).toNat = hi.toNat * 2^8 + lo.toNat := by
  have hhi : hi.toNat < 2^8 := hi.toNat_lt
  have hlo : lo.toNat < 2^8 := lo.toNat_lt
  simp only [fromBe16, UInt16.toNat_or, UInt16.toNat_shiftLeft, UInt8.toNat_toUInt16]
  rw [show (8 : UInt16).toNat % 16 = 8 from rfl, Nat.shiftLeft_eq,
    Nat.mod_eq_of_lt (show hi.toNat * 2^8 < 2^16 by omega), mul_comm, Nat.two_pow_add_eq_or_of_lt hlo]

/-- The value of a long word, by its two halves. -/
theorem toNat_fromBe32 (hi lo : UInt16) : (fromBe32 hi lo).toNat = hi.toNat * 2^16 + lo.toNat := by
  have hhi : hi.toNat < 2^16 := hi.toNat_lt
  have hlo : lo.toNat < 2^16 := lo.toNat_lt
  simp only [fromBe32, UInt32.toNat_or, UInt32.toNat_shiftLeft, UInt16.toNat_toUInt32]
  rw [show (16 : UInt32).toNat % 32 = 16 from rfl, Nat.shiftLeft_eq,
    Nat.mod_eq_of_lt (show hi.toNat * 2^16 < 2^32 by omega), mul_comm,
    Nat.two_pow_add_eq_or_of_lt hlo]

/-- A word is put together from its own bytes. -/
@[simp]
theorem fromBe16_bytes (x : UInt16) : fromBe16 (x >>> 8).toUInt8 x.toUInt8 = x := by
  have hx : x.toNat < 2^16 := x.toNat_lt
  apply UInt16.toNat_inj.mp
  rw [toNat_fromBe16, UInt16.toNat_toUInt8, UInt16.toNat_toUInt8, UInt16.toNat_shiftRight,
    show (8 : UInt16).toNat % 16 = 8 from rfl, Nat.shiftRight_eq_div_pow]
  omega

/-- A long word is put together from its own halves. -/
@[simp]
theorem fromBe32_halves (x : UInt32) : fromBe32 (x >>> 16).toUInt16 x.toUInt16 = x := by
  have hx : x.toNat < 2^32 := x.toNat_lt
  apply UInt32.toNat_inj.mp
  rw [toNat_fromBe32, UInt32.toNat_toUInt16, UInt32.toNat_toUInt16, UInt32.toNat_shiftRight,
    show (16 : UInt32).toNat % 32 = 16 from rfl, Nat.shiftRight_eq_div_pow]
  omega

/-- Two bytes that `to_be_bytes` wrote are read back. -/
theorem be16_of_bytes {data : List UInt8} {i : ℕ} {x : UInt16}
    (hhi : byte data i = .ok (x >>> 8).toUInt8) (hlo : byte data (i + 1) = .ok x.toUInt8) :
    be16 data i = .ok x := by
  unfold be16
  rw [hhi, ok_bind, hlo, ok_bind, fromBe16_bytes]
  rfl

/-- Two halves that `to_be_bytes` wrote are read back. -/
theorem be32_of_halves {data : List UInt8} {i : ℕ} {x : UInt32}
    (hhi : be16 data i = .ok (x >>> 16).toUInt16) (hlo : be16 data (i + 2) = .ok x.toUInt16) :
    be32 data i = .ok x := by
  unfold be32
  rw [hhi, ok_bind, hlo, ok_bind, fromBe32_halves]
  rfl

/-- A half that is shifted up into a 32-bit word is its upper half. -/
@[simp]
theorem upper_half (x : UInt16) : (x.toUInt32 <<< 16 >>> 16).toUInt16 = x := by
  have hx : x.toNat < 2^16 := x.toNat_lt
  apply UInt16.toNat_inj.mp
  rw [UInt32.toNat_toUInt16, UInt32.toNat_shiftRight, UInt32.toNat_shiftLeft,
    UInt16.toNat_toUInt32, show (16 : UInt32).toNat % 32 = 16 from rfl,
    Nat.shiftRight_eq_div_pow, Nat.shiftLeft_eq]
  omega

/-- Two bytes are those of the word that they make. -/
@[simp]
theorem be16Bytes_fromBe16 (hi lo : UInt8) : be16Bytes (fromBe16 hi lo) = [hi, lo] := by
  have hhi : hi.toNat < 2^8 := hi.toNat_lt
  have hlo : lo.toNat < 2^8 := lo.toNat_lt
  have h1 : (fromBe16 hi lo >>> 8).toUInt8 = hi := by
    apply UInt8.toNat_inj.mp
    rw [UInt16.toNat_toUInt8, UInt16.toNat_shiftRight, toNat_fromBe16,
      show (8 : UInt16).toNat % 16 = 8 from rfl, Nat.shiftRight_eq_div_pow]
    omega
  have h2 : (fromBe16 hi lo).toUInt8 = lo := by
    apply UInt8.toNat_inj.mp
    rw [UInt16.toNat_toUInt8, toNat_fromBe16]
    omega
  rw [be16Bytes, h1, h2]

/-- The upper half of a 32-bit word is the 16-bit word at its place. -/
theorem be16_of_be32 {data : List UInt8} {i : ℕ} {x : UInt32} (h : be32 data i = .ok x) :
    be16 data i = .ok (x >>> 16).toUInt16 := by
  obtain ⟨hi, hhi, h⟩ := bind_eq_ok.mp h
  obtain ⟨lo, -, h⟩ := bind_eq_ok.mp h
  have hx : fromBe32 hi lo = x := Except.ok.inj h
  have hhi_lt : hi.toNat < 2^16 := hi.toNat_lt
  have hlo_lt : lo.toNat < 2^16 := lo.toNat_lt
  rw [hhi, ← hx]
  -- Shifting the lower half out leaves the upper one.
  congr 1
  apply UInt16.toNat_inj.mp
  rw [UInt32.toNat_toUInt16, UInt32.toNat_shiftRight, toNat_fromBe32,
    show (16 : UInt32).toNat % 32 = 16 from rfl, Nat.shiftRight_eq_div_pow]
  omega

/-! ## Reads behind a header -/

/-- A byte behind a header is read in what follows it. -/
theorem byte_append_add (header data : List UInt8) (i : ℕ) :
    byte (header ++ data) (header.length + i) = byte data i := by
  unfold byte
  rw [List.getElem?_append_right (by omega), Nat.add_sub_cancel_left]

/-- A word behind a header is read in what follows it. -/
theorem be16_append_add (header data : List UInt8) (i : ℕ) :
    be16 (header ++ data) (header.length + i) = be16 data i := by
  unfold be16
  rw [byte_append_add, Nat.add_assoc, byte_append_add]

/-- A long word behind a header is read in what follows it. -/
theorem be32_append_add (header data : List UInt8) (i : ℕ) :
    be32 (header ++ data) (header.length + i) = be32 data i := by
  unfold be32
  rw [be16_append_add, Nat.add_assoc, be16_append_add]

/-- A byte behind a header is read back. -/
theorem byte_at (header rest : List UInt8) (b : UInt8) : byte (header ++ b :: rest) header.length = .ok b :=
  byte_append_add header (b :: rest) 0

/-- A 16-bit word behind a header is read back. -/
theorem be16_at (header rest : List UInt8) (x : UInt16) :
    be16 (header ++ (be16Bytes x ++ rest)) header.length = .ok x := by
  refine (be16_append_add header _ 0).trans (be16_of_bytes ?_ ?_)
  · rfl
  · rfl

/-- A 32-bit word behind a header is read back. -/
theorem be32_at (header rest : List UInt8) (x : UInt32) :
    be32 (header ++ (be32Bytes x ++ rest)) header.length = .ok x := by
  refine (be32_append_add header _ 0).trans (be32_of_halves ?_ ?_)
  · exact be16_of_bytes rfl rfl
  · exact be16_of_bytes rfl rfl

/-- What follows a header is what was put behind it. -/
theorem dropFrom_append {header : List UInt8} (data : List UInt8) {n : ℕ} (h : header.length = n) :
    dropFrom (header ++ data) n = .ok data := by
  rw [dropFrom_ok (by rw [List.length_append]; omega), List.drop_left' h]

/-- A byte of what follows an index is a byte of the whole. -/
theorem byte_drop (data : List UInt8) (n i : ℕ) : byte (data.drop n) i = byte data (n + i) := by
  unfold byte
  rw [List.getElem?_drop]

/-- A word of what follows an index is a word of the whole. -/
theorem be16_drop (data : List UInt8) (n i : ℕ) : be16 (data.drop n) i = be16 data (n + i) := by
  unfold be16
  rw [byte_drop, byte_drop, Nat.add_assoc]

/-! ## A packet that is cut -/

/-- `data` begins with the first `n` bytes of `packet`. -/
structure StartsWith (data : List UInt8) (n : ℕ) (packet : List UInt8) : Prop where
  le : n ≤ packet.length
  isPrefix : packet.take n <+: data

namespace StartsWith

variable {data packet : List UInt8} {n i : ℕ}

/-- A packet that is cut at `cut` and followed by other bytes. -/
theorem of_take {cut : ℕ} (rest : List UInt8) (hcut : n ≤ cut) (hn : n ≤ packet.length) :
    StartsWith (packet.take cut ++ rest) n packet := by
  refine ⟨hn, ?_⟩
  -- The first `n` bytes are among those that the cut leaves.
  have htake : packet.take n <+: packet.take cut := by
    rw [← Nat.min_eq_left hcut, ← List.take_take]
    exact List.take_prefix n (packet.take cut)
  exact htake.trans (List.prefix_append _ rest)

/-- Data that begin with `n` bytes of a packet have `n` bytes. -/
theorem le_length (h : StartsWith data n packet) : n ≤ data.length := by
  have hle := h.isPrefix.length_le
  rwa [List.length_take, Nat.min_eq_left h.le] at hle

/-- Reads below `n` are reads of the packet. -/
theorem byte_eq (h : StartsWith data n packet) (hi : i < n) : byte data i = byte packet i := by
  obtain ⟨rest, rfl⟩ := h.isPrefix
  have hlen : i < (packet.take n).length := by
    rw [List.length_take, Nat.min_eq_left h.le]
    exact hi
  unfold byte
  rw [List.getElem?_append_left hlen, List.getElem?_take_of_lt hi]

/-- A word below the cut is read in the packet. -/
theorem be16_eq (h : StartsWith data n packet) (hi : i + 1 < n) : be16 data i = be16 packet i := by
  unfold be16
  rw [h.byte_eq hi, h.byte_eq (by omega : i < n)]

/-- A long word below the cut is read in the packet. -/
theorem be32_eq (h : StartsWith data n packet) (hi : i + 3 < n) : be32 data i = be32 packet i := by
  unfold be32
  rw [h.be16_eq (by omega), h.be16_eq (by omega)]

/-- After a header that is within the first `n` bytes, the rest of the data begins with what follows
the header. -/
theorem drop {header body : List UInt8} (h : StartsWith data n (header ++ body))
    (hn : header.length ≤ n) : StartsWith (data.drop header.length) (n - header.length) body := by
  obtain ⟨hle, rest, rfl⟩ := h
  rw [List.length_append] at hle
  refine ⟨by omega, rest, ?_⟩
  rw [List.take_append, List.take_of_length_le hn, List.append_assoc, List.drop_left]

end StartsWith

end Bytes
