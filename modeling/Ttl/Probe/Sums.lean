import Ttl.Probe.Checked

/-!
# The sums of the checksums

The loops of the checksum routines against the sums of `Ttl.Probe.Build`. A sum of words either fits 32 bits
and is that sum, or one of its additions panics (`addWords_eq`). The loop that folds the carries ends after at
most two rounds (`fold_eq`).
-/

namespace Ttl

open Bytes

/-- The word at the index `i`, as it counts for the sum. -/
def wordAt (skip : Option ℕ) (i : ℕ) (hi lo : UInt8) : ℕ :=
  if skip = some i then 0 else (fromBe16 hi lo).toNat

/-- The sum of the 16-bit words from the index `i` on, without the one that is skipped. -/
def wordsFrom (skip : Option ℕ) : ℕ → List UInt8 → ℕ
  | i, hi :: lo :: rest =>
    wordAt skip i hi lo + wordsFrom skip (i + 2) rest
  | _, [b] => b.toNat * 2^8
  | _, [] => 0

/-- Without a word to skip, it is the sum of all words. -/
theorem wordsFrom_none (i : ℕ) (data : List UInt8) : wordsFrom none i data = sumWords data := by
  fun_induction sumWords data generalizing i with
  | case1 hi lo rest ih => rw [wordsFrom, wordAt, if_neg nofun, ih]
  | case2 b => rfl
  | case3 => rfl

/-- A word counts for at most 65535, and an odd byte for at most 65280. -/
theorem sumWords_le (data : List UInt8) :
    sumWords data ≤ data.length / 2 * 65535 + data.length % 2 * 65280 := by
  fun_induction sumWords data with
  | case1 hi lo rest ih =>
    have hword : (fromBe16 hi lo).toNat < 2^16 := (fromBe16 hi lo).toNat_lt
    rw [List.length_cons, List.length_cons]
    omega
  | case2 b =>
    have hbyte : b.toNat < 2^8 := b.toNat_lt
    rw [List.length_singleton]
    omega
  | case3 => exact Nat.zero_le _

namespace Checked

/-! ## The loop over the words -/

section

variable {skip : Option ℕ} {i sum fuel : ℕ} {pre rest : List UInt8} {hi lo b : UInt8}

/-- A word behind other bytes. -/
theorem be16_append (hi lo : UInt8) : be16 (pre ++ hi :: lo :: rest) pre.length = .ok (fromBe16 hi lo) := by
  have h0 := byte_append_add pre (hi :: lo :: rest) 0
  have h1 := byte_append_add pre (hi :: lo :: rest) 1
  rw [Nat.add_zero] at h0
  rw [be16, h0, h1]
  rfl

/-- A round adds its word, or the zero that stands for the one that is skipped. -/
theorem addWord_eq (hsum : sum < 2^32) :
    addWord skip (pre ++ hi :: lo :: rest) pre.length sum = fit 32 (sum + wordAt skip pre.length hi lo) := by
  unfold addWord wordAt
  split_ifs
  · rw [Nat.add_zero, fit_ok hsum]
    rfl
  · rw [be16_append, ok_bind, addU32]

/-- There are two bytes more than before and behind the word. -/
theorem length_word : (pre ++ hi :: lo :: rest).length = pre.length + (rest.length + 2) := by
  rw [List.length_append, List.length_cons, List.length_cons]

/-- An iteration adds a word, if the sum still fits. -/
theorem sumBody_word (hlen : (pre ++ hi :: lo :: rest).length < 2^63) (hsum : sum < 2^32) :
    sumBody skip (pre ++ hi :: lo :: rest) (pre.length, sum) =
      (fit 32 (sum + wordAt skip pre.length hi lo) >>= fun sum => return .again (pre.length + 2, sum)) := by
  have hlength : (pre ++ hi :: lo :: rest).length = pre.length + (rest.length + 2) := length_word
  have hindex : addUsize pre.length 2 = .ok (pre.length + 2) := addUsize_ok (by omega)
  unfold sumBody
  dsimp only
  rw [addUsize_ok (by omega), ok_bind, if_pos (by omega), addWord_eq hsum, hindex]
  rfl

/-- The loop ends where no whole word is left. -/
theorem sumBody_end (hlen : (pre ++ rest).length < 2^63) (hrest : rest.length < 2) :
    sumBody skip (pre ++ rest) (pre.length, sum) = .ok (.leave (pre.length, sum)) := by
  rw [List.length_append] at hlen
  unfold sumBody
  dsimp only
  rw [addUsize_ok (by omega), ok_bind, if_neg (by rw [List.length_append]; omega)]
  rfl

/-- What is done with the loop's result: an odd last byte is added. -/
def addOddByte (data : List UInt8) : ℕ × ℕ → Parse ℕ
  | (i, sum) => do
    if i < data.length then addU32 sum ((← byte data i).toNat * 2^8) else return sum

/-- The routine is its loop and the odd byte. -/
theorem addWords_eq_bind (data : List UInt8) :
    addWords skip data sum = loop (sumBody skip data) (data.length + 1) (0, sum) >>= addOddByte data :=
  rfl

/-- The loop from an index on. -/
theorem loop_sumBody (pre rest : List UInt8) (hlen : (pre ++ rest).length < 2^63) (hsum : sum < 2^32)
    (hfuel : rest.length < fuel) :
    loop (sumBody skip (pre ++ rest)) fuel (pre.length, sum) >>= addOddByte (pre ++ rest) =
      fit 32 (sum + wordsFrom skip pre.length rest) := by
  -- The induction is on the words that are left; those before them only tell the index.
  obtain ⟨i, hi⟩ : ∃ i, i = pre.length := ⟨_, rfl⟩
  rw [← hi]
  fun_induction wordsFrom skip i rest generalizing pre sum fuel with
  | case1 i first second rest ih =>
    obtain ⟨fuel, rfl⟩ : ∃ n, fuel = n + 1 := ⟨fuel - 1, by omega⟩
    subst hi
    have hbody := @sumBody_word skip _ pre rest first second hlen hsum
    by_cases hword : sum + wordAt skip pre.length first second < 2^32
    · rw [fit_ok hword, ok_bind] at hbody
      rw [loop_again hbody]
      have hsplit : pre ++ first :: second :: rest = (pre ++ [first, second]) ++ rest := by
        rw [List.append_assoc, List.cons_append, List.cons_append, List.nil_append]
      have hlength : (pre ++ [first, second]).length = pre.length + 2 := by
        rw [List.length_append]
        rfl
      rw [hsplit] at hlen ⊢
      rw [List.length_cons, List.length_cons] at hfuel
      rw [ih (pre ++ [first, second]) hlen hword (by omega) hlength.symm, Nat.add_assoc]
    · -- The sum only grows, so that what overflows here does not fit at the end either.
      rw [fit_panic (by omega), panic_bind] at hbody
      rw [loop_panic hbody, panic_bind, fit_panic (by omega)]
  | case2 i b =>
    obtain ⟨fuel, rfl⟩ : ∃ n, fuel = n + 1 := ⟨fuel - 1, by omega⟩
    subst hi
    have hbyte := byte_append_add pre [b] 0
    rw [Nat.add_zero] at hbyte
    rw [loop_leave (sumBody_end hlen (Nat.lt_succ_self 1)), ok_bind, addOddByte,
      if_pos (by rw [List.length_append]; exact Nat.lt_succ_self _), hbyte]
    rfl
  | case3 i =>
    obtain ⟨fuel, rfl⟩ : ∃ n, fuel = n + 1 := ⟨fuel - 1, by omega⟩
    subst hi
    rw [loop_leave (sumBody_end hlen Nat.zero_lt_two), ok_bind, addOddByte,
      if_neg (by rw [List.append_nil]; exact Nat.lt_irrefl _), Nat.add_zero, fit_ok hsum]
    rfl

/-- **The sum of the words:** it is the sum, if that fits 32 bits, and a panic otherwise. -/
theorem addWords_eq {data : List UInt8} (hlen : data.length < 2^63) (hsum : sum < 2^32) :
    addWords skip data sum = fit 32 (sum + wordsFrom skip 0 data) := by
  rw [addWords_eq_bind]
  exact loop_sumBody [] data hlen hsum (Nat.lt_succ_self _)

end

/-! ## The loop over the carries -/

/-- A sum without a carry ends the folding. -/
theorem foldBody_leave {sum : ℕ} (h : sum < 2^16) : foldBody sum = .ok (.leave sum) := by
  rw [foldBody, if_neg (not_not_intro (Nat.div_eq_of_lt h))]
  rfl

/-- A sum with a carry is folded again. -/
theorem foldBody_again {sum : ℕ} (h : 2^16 ≤ sum) (hsum : sum < 2^32) :
    foldBody sum = .ok (.again (sum % 2^16 + sum / 2^16)) := by
  rw [foldBody, if_pos (by omega), addU32_ok (by omega)]
  rfl

/-- **The folding of the carries** ends after at most two rounds. -/
theorem fold_eq {sum : ℕ} (hsum : sum < 2^32) : fold sum = .ok (foldCarries sum) := by
  have hmod : sum % 2^32 = sum := Nat.mod_eq_of_lt hsum
  unfold fold foldCarries
  dsimp only
  rw [hmod]
  obtain ⟨once, honce⟩ : ∃ n, n = sum % 2^16 + sum / 2^16 := ⟨_, rfl⟩
  rw [← honce]
  by_cases h : sum < 2^16
  · have hlow : once = sum := by omega
    have htwice : once % 2^16 + once / 2^16 = sum := by omega
    rw [loop_leave (foldBody_leave h), htwice]
  · rw [loop_again (foldBody_again (by omega) hsum), ← honce]
    by_cases h' : once < 2^16
    · have htwice : once % 2^16 + once / 2^16 = once := by omega
      rw [loop_leave (foldBody_leave h'), htwice]
    · rw [loop_again (foldBody_again (by omega) (by omega)), loop_leave (foldBody_leave (by omega))]

/-- The check of an ICMP message, when the sum of its words fits 32 bits. -/
theorem validateIcmpChecksum_eq {data : List UInt8} (hlen : data.length < 2^63)
    (hsum : sumWords data < 2^32) :
    validateIcmpChecksum data = .ok (Ttl.validateIcmpChecksum data) := by
  unfold validateIcmpChecksum Ttl.validateIcmpChecksum
  split_ifs with hshort
  · rw [decide_eq_false (by omega)]
    rfl
  · rw [addWords_eq hlen (by omega), wordsFrom_none, Nat.zero_add, fit_ok hsum, ok_bind, fold_eq hsum]
    have hwhole : 4 ≤ data.length := by omega
    simp only [hwhole, true_and]
    rfl

/-- The check of an ICMP message panics when the sum of its words does not fit. -/
theorem validateIcmpChecksum_panic {data : List UInt8} (hlen : data.length < 2^63)
    (hsum : 2^32 ≤ sumWords data) (hwhole : 4 ≤ data.length) :
    validateIcmpChecksum data = .error .panic := by
  rw [validateIcmpChecksum, if_neg (by omega), addWords_eq hlen (by omega), wordsFrom_none,
    Nat.zero_add, fit_panic hsum, panic_bind]

end Checked

end Ttl
