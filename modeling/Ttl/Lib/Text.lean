import Mathlib.Data.Rat.Floor

/-!
# Texts

A text is a list of characters. The texts of natural numbers, decimal and hexadecimal, and of rationals with a fixed
number of decimals are as formatting functions write them. A rational is rounded to the nearest number with so many
decimals, the even one of two. `mem_intercalate` is about texts that are joined with a separator.
-/

namespace Text

/-- A natural number. -/
def nat (n : ℕ) : List Char := Nat.toDigits 10 n

/-- A natural number, hexadecimal. -/
def hex (n : ℕ) : List Char := Nat.toDigits 16 n

/-- The nearest natural number, the even one of two. -/
def roundHalfEven (x : ℚ) : ℕ :=
  let n := x.floor.toNat
  let rest := x - n
  if rest < 1 / 2 then n else if 1 / 2 < rest then n + 1 else if n % 2 = 0 then n else n + 1

/-- A natural number with as many digits as `width` at least. -/
def padded (width n : ℕ) : List Char := List.replicate (width - (nat n).length) '0' ++ nat n

/-- A rational number that is not negative, with `decimals` decimals. -/
def fixedAbs (decimals : ℕ) (x : ℚ) : List Char :=
  let scaled := roundHalfEven (x * 10^decimals)
  let whole := nat (scaled / 10^decimals)
  if decimals = 0 then whole else whole ++ '.' :: padded decimals (scaled % 10^decimals)

/-- A rational number with `decimals` decimals. A number that rounds to zero keeps its sign. -/
def fixed (decimals : ℕ) (x : ℚ) : List Char :=
  if x < 0 then '-' :: fixedAbs decimals (-x) else fixedAbs decimals x

example : fixed 2 (1 / 8) = "0.12".toList := by decide +kernel

/-- A character of a joined text is one of the separator or of a part. -/
theorem mem_intercalate {α : Type*} {sep : List α} {parts : List (List α)} {c : α}
    (h : c ∈ List.intercalate sep parts) : c ∈ sep ∨ ∃ part ∈ parts, c ∈ part := by
  induction parts with
  | nil => cases h
  | cons part parts ih =>
    cases parts with
    | nil =>
      rw [List.intercalate_singleton] at h
      exact .inr ⟨part, List.mem_singleton_self _, h⟩
    | cons next parts =>
      rw [List.intercalate_cons_cons, List.mem_append, List.mem_append] at h
      obtain (h | h) | h := h
      · exact .inr ⟨part, List.mem_cons_self, h⟩
      · exact .inl h
      · obtain hsep | ⟨p, hp, hc⟩ := ih h
        · exact .inl hsep
        · exact .inr ⟨p, List.mem_cons_of_mem _ hp, hc⟩

/-! ## Natural numbers -/

/-- A number has a digit. -/
theorem nat_ne_nil (n : ℕ) : nat n ≠ [] := Nat.toDigits_ne_nil

/-- A hexadecimal number has a digit. -/
theorem hex_ne_nil (n : ℕ) : hex n ≠ [] := Nat.toDigits_ne_nil

/-- The text of a number has digits only. -/
theorem isDigit_of_mem_nat {n : ℕ} {c : Char} (h : c ∈ nat n) : c.isDigit :=
  Nat.isDigit_of_mem_toDigits (by decide) (by decide) h

/-- The text of a padded number has digits only. -/
theorem isDigit_of_mem_padded {width n : ℕ} {c : Char} (h : c ∈ padded width n) : c.isDigit := by
  obtain h | h := List.mem_append.mp h
  · rw [List.eq_of_mem_replicate h]
    rfl
  · exact isDigit_of_mem_nat h

/-- The characters of a number with decimals. -/
theorem of_mem_fixed {decimals : ℕ} {x : ℚ} {c : Char} (h : c ∈ fixed decimals x) : c.isDigit ∨ c = '-' ∨ c = '.' := by
  have habs : ∀ y, c ∈ fixedAbs decimals y → c.isDigit ∨ c = '.' := by
    intro y hy
    unfold fixedAbs at hy
    dsimp only at hy
    split_ifs at hy
    · exact .inl (isDigit_of_mem_nat hy)
    · obtain hwhole | hrest := List.mem_append.mp hy
      · exact .inl (isDigit_of_mem_nat hwhole)
      · obtain hpoint | hdecimals := List.mem_cons.mp hrest
        · exact .inr hpoint
        · exact .inl (isDigit_of_mem_padded hdecimals)
  unfold fixed at h
  split_ifs at h
  · obtain hsign | h := List.mem_cons.mp h
    · exact .inr (.inl hsign)
    · exact (habs _ h).imp_right .inr
  · exact (habs _ h).imp_right .inr

/-- A padded number has a digit. -/
theorem padded_ne_nil (width n : ℕ) : padded width n ≠ [] := List.append_ne_nil_of_right_ne_nil _ (nat_ne_nil n)

/-- The number that a text of decimal digits stands for. -/
theorem ofDigitChars_nat (n : ℕ) : Nat.ofDigitChars 10 (nat n) 0 = n := Nat.ofDigitChars_ten_toDigits

/-- Numbers are told apart by their texts. -/
theorem nat_injective : Function.Injective nat := by
  intro n m h
  rw [← ofDigitChars_nat n, h, ofDigitChars_nat]

/-- A number ends where its digits end. -/
theorem nat_append_inj {n m : ℕ} {c d : Char} {l k : List Char} (hc : c.isDigit = false) (hd : d.isDigit = false)
    (h : nat n ++ c :: l = nat m ++ d :: k) : n = m ∧ l = k := by
  have htake (n : ℕ) (c : Char) (l : List Char) (hc : c.isDigit = false) :
      (nat n ++ c :: l).takeWhile Char.isDigit = nat n := by
    rw [List.takeWhile_append_of_pos fun x hx => isDigit_of_mem_nat hx, List.takeWhile_cons_of_neg (by rw [hc]; decide),
      List.append_nil]
  have hnat : nat n = nat m := by
    rw [← htake n c l hc, h, htake m d k hd]
  have hrest : c :: l = d :: k := List.append_cancel_left (hnat ▸ h)
  exact ⟨nat_injective hnat, List.tail_eq_of_cons_eq hrest⟩

/-- The characters of a text are those of digits. -/
theorem exists_digitChar_of_mem_hex {n : ℕ} {c : Char} (h : c ∈ hex n) : ∃ d < 16, c = d.digitChar := by
  unfold hex at h
  induction n using Nat.base_induction 16 (by decide) with
  | single n hn =>
    rw [Nat.toDigits_of_lt_base hn, List.mem_singleton] at h
    exact ⟨n, hn, h⟩
  | digit n k hk hn ih =>
    rw [← Nat.toDigits_append_toDigits (by decide) hn hk, Nat.toDigits_of_lt_base hk] at h
    rcases List.mem_append.mp h with h | h
    · exact ih h
    · exact ⟨k, hk, List.mem_singleton.mp h⟩

/-- The value of a hexadecimal digit. -/
def hexValue (c : Char) : ℕ := if c.isDigit then c.toNat - '0'.toNat else c.toNat - 'a'.toNat + 10

/-- The number that a text of hexadecimal digits stands for. -/
def ofHexChars (l : List Char) : ℕ := l.foldl (fun n c => 16 * n + hexValue c) 0

/-- The digit of a value below sixteen has that value. -/
theorem hexValue_digitChar {d : ℕ} (h : d < 16) : hexValue d.digitChar = d := by
  revert d
  decide

/-- A hexadecimal number reads back. -/
theorem ofHexChars_hex (n : ℕ) : ofHexChars (hex n) = n := by
  unfold hex ofHexChars
  induction n using Nat.base_induction 16 (by decide) with
  | single n hn =>
    rw [Nat.toDigits_of_lt_base hn, List.foldl_cons, List.foldl_nil, hexValue_digitChar hn, Nat.mul_zero, Nat.zero_add]
  | digit n k hk hn ih =>
    rw [← Nat.toDigits_append_toDigits (by decide) hn hk, Nat.toDigits_of_lt_base hk, List.foldl_append, ih,
      List.foldl_cons, List.foldl_nil, hexValue_digitChar hk]

/-- Numbers are told apart by their hexadecimal texts. -/
theorem hex_injective : Function.Injective hex := by
  intro n m h
  rw [← ofHexChars_hex n, h, ofHexChars_hex]

end Text
