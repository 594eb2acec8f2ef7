import Mathlib.Data.List.TakeWhile
import Ttl.Probe.Extensions

/-!
# The names of interfaces

The name of an interface is UTF-8 text behind a byte that counts it, with NULs after it. `utf8` writes the text.
Each character is read back from its own bytes, whatever follows them (`utf8_char`), so that `fromUtf8Lossy`
reads the text back (`fromUtf8Lossy_utf8`) and `interfaceName` the name, if it has no NUL in it and no blank
around it (`interfaceName_utf8`).
-/

namespace Ttl

open Bytes

/-- The UTF-8 bytes of a text. -/
def utf8 (text : List Char) : List UInt8 := text.flatMap String.utf8EncodeChar

/-! ## Bytes by their values -/

/-- A value below 256 is one of its byte. -/
theorem toNat_ofNat {x : ℕ} (h : x < 256) : (UInt8.ofNat x).toNat = x := UInt8.toNat_ofNat_of_lt' h

/-- The width of a character by its first byte, in numbers. -/
theorem utf8CharWidth_eq (b : UInt8) :
    utf8CharWidth b =
      if b.toNat < 128 then 1
      else if 194 ≤ b.toNat ∧ b.toNat ≤ 223 then 2
      else if 224 ≤ b.toNat ∧ b.toNat ≤ 239 then 3
      else if 240 ≤ b.toNat ∧ b.toNat ≤ 244 then 4
      else 0 := by
  simp only [utf8CharWidth, UInt8.lt_iff_toNat_lt, UInt8.le_iff_toNat_le]
  rfl

/-- The bytes that continue a character, in numbers. -/
theorem isContinuation_iff (b : UInt8) : isContinuation b = true ↔ 128 ≤ b.toNat ∧ b.toNat ≤ 191 := by
  simp only [isContinuation, decide_eq_true_eq, UInt8.le_iff_toNat_le]
  rfl

/-- The second byte of a sequence. -/
theorem isSecondByte_of {first b : UInt8} (h : 128 ≤ b.toNat ∧ b.toNat ≤ 191)
    (he0 : first.toNat = 224 → 160 ≤ b.toNat) (hed : first.toNat = 237 → b.toNat ≤ 159)
    (hf0 : first.toNat = 240 → 144 ≤ b.toNat) (hf4 : first.toNat = 244 → b.toNat ≤ 143) :
    isSecondByte first b = true := by
  unfold isSecondByte
  simp only [← UInt8.toNat_inj, UInt8.le_iff_toNat_le]
  simp only [UInt8.reduceToNat]
  split_ifs with h1 h2 h3 h4
  · exact decide_eq_true ⟨he0 h1, h.2⟩
  · exact decide_eq_true ⟨h.1, hed h2⟩
  · exact decide_eq_true ⟨hf0 h3, h.2⟩
  · exact decide_eq_true ⟨h.1, hf4 h4⟩
  · exact (isContinuation_iff b).mpr h

/-- The low bits of a byte. -/
theorem toNat_and_mask {x k n : ℕ} {mask : UInt8} (hmask : mask.toNat = 2^n - 1) (hx : x < 2^n)
    (h : x + k * 2^n < 256) : (UInt8.ofNat (x + k * 2^n) &&& mask).toNat = x := by
  rw [UInt8.toNat_and, toNat_ofNat h, hmask, Nat.and_two_pow_sub_one_eq_mod, Nat.add_mul_mod_self_right,
    Nat.mod_eq_of_lt hx]

/-- The six bits of a continuation byte. -/
theorem toNat_continuation (x : ℕ) : (UInt8.ofNat (x % 64 + 128) &&& 0x3F).toNat = x % 64 :=
  toNat_and_mask (n := 6) (k := 2) rfl (by omega) (by omega)

/-- A byte that is made from six bits continues a character. -/
theorem isContinuation_ofNat (x : ℕ) : isContinuation (UInt8.ofNat (x % 64 + 128)) = true := by
  rw [isContinuation_iff, toNat_ofNat (by omega)]
  omega

/-! ## One character -/

/-- The bytes that belong to a first byte do not depend on what follows them. -/
theorem utf8Tail_append {first second : UInt8} {more : List UInt8} (rest : List UInt8)
    (hwidth : utf8CharWidth first = more.length + 2) (hsecond : isSecondByte first second = true)
    (hmore : ∀ b ∈ more, isContinuation b = true) :
    utf8Tail first (second :: more ++ rest) = second :: more := by
  rw [List.cons_append, utf8Tail, hwidth, if_pos ⟨Nat.le_add_left 2 _, hsecond⟩, Nat.add_sub_cancel, List.take_left,
    List.takeWhile_eq_self_iff.mpr hmore]

/-- The bytes are read back as a character, whatever follows them. -/
def ReadsAs (c : Char) : List UInt8 → Prop
  | [] => False
  | first :: tail =>
    tail.length + 1 = utf8CharWidth first ∧ utf8Char first tail = c ∧ ∀ rest, utf8Tail first (tail ++ rest) = tail

section

variable {c : Char}

/-- A character of one byte is read from that byte. -/
theorem readsAs_one (h : c.toNat ≤ 0x7F) : ReadsAs c [UInt8.ofNat c.toNat] := by
  have hfirst : (UInt8.ofNat c.toNat).toNat = c.toNat := toNat_ofNat (by omega)
  have hwidth : utf8CharWidth (UInt8.ofNat c.toNat) = 1 := by
    rw [utf8CharWidth_eq, hfirst, if_pos (by omega)]
  refine ⟨hwidth.symm, ?_, fun rest => ?_⟩
  · calc utf8Char (UInt8.ofNat c.toNat) [] = Char.ofNat (UInt8.ofNat c.toNat).toNat := rfl
      _ = c := by rw [hfirst, Char.ofNat_toNat]
  · cases rest with
    | nil => rfl
    | cons b rest =>
      rw [List.nil_append, utf8Tail, hwidth, if_neg]
      omega

/-- A character of two bytes is read from them. -/
theorem readsAs_two (h : 0x80 ≤ c.toNat) (h' : c.toNat ≤ 0x7FF) :
    ReadsAs c [UInt8.ofNat (c.toNat / 64 % 32 + 192), UInt8.ofNat (c.toNat % 64 + 128)] := by
  have hfirst : (UInt8.ofNat (c.toNat / 64 % 32 + 192)).toNat = c.toNat / 64 % 32 + 192 := toNat_ofNat (by omega)
  have hwidth : utf8CharWidth (UInt8.ofNat (c.toNat / 64 % 32 + 192)) = 2 := by
    rw [utf8CharWidth_eq, hfirst, if_neg (by omega), if_pos (by omega)]
  have hsecond := (isContinuation_iff _).mp (isContinuation_ofNat c.toNat)
  have hlead : (UInt8.ofNat (c.toNat / 64 % 32 + 192) &&& 0x1F).toNat = c.toNat / 64 % 32 :=
    toNat_and_mask (n := 5) (k := 6) rfl (by omega) (by omega)
  refine ⟨hwidth.symm, ?_, fun rest => utf8Tail_append rest hwidth ?_ nofun⟩
  · calc utf8Char (UInt8.ofNat (c.toNat / 64 % 32 + 192)) [UInt8.ofNat (c.toNat % 64 + 128)]
        = Char.ofNat ((UInt8.ofNat (c.toNat / 64 % 32 + 192) &&& 0x1F).toNat * 64 +
            (UInt8.ofNat (c.toNat % 64 + 128) &&& 0x3F).toNat) := rfl
      _ = Char.ofNat c.toNat := by
        -- Five bits from the first byte and six from the second are the whole value.
        rw [hlead, toNat_continuation]
        congr 1
        omega
      _ = c := Char.ofNat_toNat c
  · exact isSecondByte_of hsecond (by omega) (by omega) (by omega) (by omega)

/-- The surrogates are not characters. -/
theorem not_surrogate (c : Char) : c.toNat < 0xD800 ∨ 0xDFFF < c.toNat := by
  obtain h | ⟨h, -⟩ := c.valid
  · exact .inl h
  · exact .inr h

/-- A character of three bytes is read from them. -/
theorem readsAs_three (h : 0x800 ≤ c.toNat) (h' : c.toNat ≤ 0xFFFF) :
    ReadsAs c [UInt8.ofNat (c.toNat / 4096 % 16 + 224), UInt8.ofNat (c.toNat / 64 % 64 + 128),
      UInt8.ofNat (c.toNat % 64 + 128)] := by
  have hchar := not_surrogate c
  have hfirst : (UInt8.ofNat (c.toNat / 4096 % 16 + 224)).toNat = c.toNat / 4096 % 16 + 224 := toNat_ofNat (by omega)
  have hwidth : utf8CharWidth (UInt8.ofNat (c.toNat / 4096 % 16 + 224)) = 3 := by
    rw [utf8CharWidth_eq, hfirst, if_neg (by omega), if_neg (by omega), if_pos (by omega)]
  have hsecond : (UInt8.ofNat (c.toNat / 64 % 64 + 128)).toNat = c.toNat / 64 % 64 + 128 := toNat_ofNat (by omega)
  have hlead : (UInt8.ofNat (c.toNat / 4096 % 16 + 224) &&& 0x0F).toNat = c.toNat / 4096 % 16 :=
    toNat_and_mask (n := 4) (k := 14) rfl (by omega) (by omega)
  refine ⟨hwidth.symm, ?_, fun rest => utf8Tail_append rest hwidth ?_ ?_⟩
  · calc utf8Char (UInt8.ofNat (c.toNat / 4096 % 16 + 224))
          [UInt8.ofNat (c.toNat / 64 % 64 + 128), UInt8.ofNat (c.toNat % 64 + 128)]
        = Char.ofNat (((UInt8.ofNat (c.toNat / 4096 % 16 + 224) &&& 0x0F).toNat * 64 +
            (UInt8.ofNat (c.toNat / 64 % 64 + 128) &&& 0x3F).toNat) * 64 +
            (UInt8.ofNat (c.toNat % 64 + 128) &&& 0x3F).toNat) := rfl
      _ = Char.ofNat c.toNat := by
        rw [hlead, toNat_continuation, toNat_continuation]
        congr 1
        omega
      _ = c := Char.ofNat_toNat c
  · -- After 0xE0 a smaller second byte would fit into two bytes, and after 0xED a larger one is a surrogate.
    exact isSecondByte_of (by omega) (by omega) (by omega) (by omega) (by omega)
  · intro b hb
    rw [List.mem_singleton] at hb
    rw [hb]
    exact isContinuation_ofNat _

/-- The largest character. -/
theorem toNat_le (c : Char) : c.toNat ≤ 0x10FFFF := by
  obtain h | ⟨-, h⟩ := c.valid
  · exact Nat.le_of_lt (Nat.lt_trans h (by decide))
  · exact Nat.le_of_lt_succ h

/-- A character of four bytes is read from them. -/
theorem readsAs_four (h : 0x10000 ≤ c.toNat) :
    ReadsAs c [UInt8.ofNat (c.toNat / 262144 % 8 + 240), UInt8.ofNat (c.toNat / 4096 % 64 + 128),
      UInt8.ofNat (c.toNat / 64 % 64 + 128), UInt8.ofNat (c.toNat % 64 + 128)] := by
  have hle := toNat_le c
  have hfirst : (UInt8.ofNat (c.toNat / 262144 % 8 + 240)).toNat = c.toNat / 262144 % 8 + 240 := toNat_ofNat (by omega)
  have hwidth : utf8CharWidth (UInt8.ofNat (c.toNat / 262144 % 8 + 240)) = 4 := by
    rw [utf8CharWidth_eq, hfirst, if_neg (by omega), if_neg (by omega), if_neg (by omega), if_pos (by omega)]
  have hsecond : (UInt8.ofNat (c.toNat / 4096 % 64 + 128)).toNat = c.toNat / 4096 % 64 + 128 := toNat_ofNat (by omega)
  have hlead : (UInt8.ofNat (c.toNat / 262144 % 8 + 240) &&& 0x07).toNat = c.toNat / 262144 % 8 :=
    toNat_and_mask (n := 3) (k := 30) rfl (by omega) (by omega)
  refine ⟨hwidth.symm, ?_, fun rest => utf8Tail_append rest hwidth ?_ ?_⟩
  · calc utf8Char (UInt8.ofNat (c.toNat / 262144 % 8 + 240))
          [UInt8.ofNat (c.toNat / 4096 % 64 + 128), UInt8.ofNat (c.toNat / 64 % 64 + 128),
            UInt8.ofNat (c.toNat % 64 + 128)]
        = Char.ofNat ((((UInt8.ofNat (c.toNat / 262144 % 8 + 240) &&& 0x07).toNat * 64 +
            (UInt8.ofNat (c.toNat / 4096 % 64 + 128) &&& 0x3F).toNat) * 64 +
            (UInt8.ofNat (c.toNat / 64 % 64 + 128) &&& 0x3F).toNat) * 64 +
            (UInt8.ofNat (c.toNat % 64 + 128) &&& 0x3F).toNat) := rfl
      _ = Char.ofNat c.toNat := by
        rw [hlead, toNat_continuation, toNat_continuation, toNat_continuation]
        congr 1
        omega
      _ = c := Char.ofNat_toNat c
  · -- After 0xF0 a smaller second byte would fit into three bytes, and after 0xF4 a larger one is out of range.
    exact isSecondByte_of (by omega) (by omega) (by omega) (by omega) (by omega)
  · intro b hb
    obtain rfl | rfl := List.mem_cons.mp hb |>.imp_right List.mem_singleton.mp
    · exact isContinuation_ofNat _
    · exact isContinuation_ofNat _

end

/-- **One character:** it is read back from the bytes that it is written as. -/
theorem readsAs_utf8EncodeChar (c : Char) : ReadsAs c (String.utf8EncodeChar c) := by
  unfold String.utf8EncodeChar
  dsimp only
  rw [← Char.toNat]
  by_cases h1 : c.toNat ≤ 0x7F
  · rw [if_pos h1]
    exact readsAs_one h1
  rw [if_neg h1]
  by_cases h2 : c.toNat ≤ 0x7FF
  · rw [if_pos h2]
    exact readsAs_two (by omega) h2
  rw [if_neg h2]
  by_cases h3 : c.toNat ≤ 0xFFFF
  · rw [if_pos h3]
    exact readsAs_three (by omega) h3
  rw [if_neg h3]
  exact readsAs_four (by omega)

/-- A byte of a character other than NUL is not NUL. -/
theorem ne_zero_of_mem_utf8EncodeChar {c : Char} (hc : c ≠ '\x00') {b : UInt8}
    (hb : b ∈ String.utf8EncodeChar c) : b ≠ 0 := by
  have hpos : 0 < c.toNat := Nat.pos_of_ne_zero fun hzero => hc (Char.toNat_inj.mp hzero)
  have hle := toNat_le c
  have hne {x : ℕ} (h : 0 < x) (h' : x < 256) (hx : b = UInt8.ofNat x) : b ≠ 0 := by
    rintro rfl
    have hzero := congrArg UInt8.toNat hx
    rw [toNat_ofNat h', UInt8.toNat_zero] at hzero
    omega
  unfold String.utf8EncodeChar at hb
  dsimp only at hb
  rw [← Char.toNat] at hb
  split_ifs at hb
  · exact hne hpos (by omega) (List.mem_singleton.mp hb)
  -- In the longer sequences every byte is at least 0x80.
  all_goals
    simp only [List.mem_cons, List.not_mem_nil, or_false] at hb
  · obtain hb | hb := hb <;> exact hne (by omega) (by omega) hb
  · obtain hb | hb | hb := hb <;> exact hne (by omega) (by omega) hb
  · obtain hb | hb | hb | hb := hb <;> exact hne (by omega) (by omega) hb

/-! ## A text -/

/-- **A text:** it is read back from its UTF-8 bytes. -/
theorem fromUtf8Lossy_utf8 (text : List Char) {fuel : ℕ} (hfuel : (utf8 text).length ≤ fuel) :
    fromUtf8Lossy fuel (utf8 text) = text := by
  induction text generalizing fuel with
  | nil => cases fuel <;> rfl
  | cons c text ih =>
    have hreads := readsAs_utf8EncodeChar c
    rw [utf8, List.flatMap_cons, ← utf8] at hfuel ⊢
    cases hbytes : String.utf8EncodeChar c with
    | nil =>
      rw [hbytes] at hreads
      exact hreads.elim
    | cons first tail =>
      -- The first byte takes its own tail, and the rest of the text follows.
      rw [hbytes] at hreads hfuel
      obtain ⟨hwidth, hchar, htail⟩ := hreads
      rw [List.cons_append, List.length_cons, List.length_append] at hfuel
      obtain ⟨fuel, rfl⟩ : ∃ n, fuel = n + 1 := ⟨fuel - 1, by omega⟩
      rw [List.cons_append, fromUtf8Lossy, htail, if_pos hwidth, hchar, List.drop_left, ih (by omega)]

/-- The text ends at the NULs after it. -/
theorem takeWhile_utf8 {text : List Char} (hnul : '\x00' ∉ text) (pad : ℕ) :
    (utf8 text ++ List.replicate pad 0).takeWhile (· ≠ 0) = utf8 text := by
  have htext : ∀ b ∈ utf8 text, decide (b ≠ 0) = true := by
    intro b hb
    obtain ⟨c, hc, hb⟩ := List.mem_flatMap.mp hb
    exact decide_eq_true (ne_zero_of_mem_utf8EncodeChar (fun h => hnul (h ▸ hc)) hb)
  rw [List.takeWhile_append_of_pos htext, List.takeWhile_replicate, if_neg (by decide), List.append_nil]

/-- Nothing is trimmed from a text without blanks around it. -/
theorem trimChars_eq {text : List Char} (hfirst : ∀ c ∈ text.head?, isWhitespace c = false)
    (hlast : ∀ c ∈ text.getLast?, isWhitespace c = false) : trimChars text = text := by
  have hdrop {chars : List Char} (h : ∀ c ∈ chars.head?, isWhitespace c = false) :
      chars.dropWhile isWhitespace = chars := by
    cases chars with
    | nil => rfl
    | cons c chars => rw [List.dropWhile_cons_of_neg (by rw [h c rfl]; exact Bool.false_ne_true)]
  rw [trimChars, hdrop hfirst, hdrop (by rwa [List.head?_reverse]), List.reverse_reverse]

/-- **A name:** it is read back from its UTF-8 bytes and the NULs after them. -/
theorem interfaceName_utf8 {name : String} (hne : name.toList ≠ []) (hnul : '\x00' ∉ name.toList)
    (hfirst : ∀ c ∈ name.toList.head?, isWhitespace c = false)
    (hlast : ∀ c ∈ name.toList.getLast?, isWhitespace c = false) (pad : ℕ) :
    interfaceName (utf8 name.toList ++ List.replicate pad 0) = some name := by
  unfold interfaceName
  dsimp only
  rw [takeWhile_utf8 hnul, fromUtf8Lossy_utf8 _ (Nat.le_refl _), trimChars_eq hfirst hlast]
  cases htext : name.toList with
  | nil => exact absurd htext hne
  | cons c text =>
    have hname : String.ofList (c :: text) = name := by rw [← htext, String.ofList_toList]
    exact congrArg some hname

end Ttl
