import Ttl.Lib.Runs
import Ttl.Lib.Zipper
import Ttl.Probe.Names

/-!
# The text editor of the settings

The editor of the API key in `src/tui/views/settings.rs` works on the bytes of a string, with a cursor that is a byte
offset. What `insert`, `remove` and `replace_range` of `String` do off a character boundary, they panic, is `none`, as
is a subtraction below zero. The editor refines the one on characters (`edit_encode`): each operation finds the next
boundary on its side, since the bytes between two boundaries are continuations.
-/

namespace Ttl

open Runs

/-- `-` of `usize`, which panics below zero. -/
def subUsize (a b : ℕ) : Option ℕ := if b ≤ a then some (a - b) else none

/-- What is subtracted is no greater. -/
theorem subUsize_eq {a b : ℕ} (h : b ≤ a) : subUsize a b = some (a - b) := if_pos h

/-! ## Strings as bytes -/

/-- `str::is_char_boundary`. -/
def isCharBoundary (s : List UInt8) (index : ℕ) : Bool :=
  index = 0 ||
    match s[index]? with
    | none => index = s.length
    | some b => ! isContinuation b

/-- `String::insert`. -/
def insertChar (s : List UInt8) (index : ℕ) (c : Char) : Option (List UInt8) :=
  if isCharBoundary s index then some (s.take index ++ String.utf8EncodeChar c ++ s.drop index) else none

/-- `String::remove`: the character is as wide as its first byte says. -/
def removeChar (s : List UInt8) (index : ℕ) : Option (List UInt8) :=
  if isCharBoundary s index then
    match s[index]? with
    | some first => some (s.take index ++ s.drop (index + utf8CharWidth first))
    | none => none
  else none

/-- `String::replace_range` by nothing. -/
def removeRange (s : List UInt8) (start stop : ℕ) : Option (List UInt8) :=
  if start ≤ stop ∧ isCharBoundary s start ∧ isCharBoundary s stop then some (s.take start ++ s.drop stop) else none

/-! ## The editor -/

/-- `SettingsState`, of which the editor reads the key and its cursor. -/
structure SettingsState where
  api_key : List UInt8
  api_key_cursor : ℕ
deriving DecidableEq

namespace SettingsState

/-- `new`: the cursor is at the end of the key. -/
def new (api_key : Option (List Char)) : SettingsState :=
  let api_key := utf8 (api_key.getD [])
  ⟨api_key, api_key.length⟩

/-- The loop that looks for a boundary to the left. -/
def prevBoundary (s : List UInt8) : ℕ → ℕ
  | 0 => 0
  | prev + 1 => if isCharBoundary s (prev + 1) then prev + 1 else prevBoundary s prev

/-- The loop that looks for a boundary to the right, in at most so many turns. -/
def nextBoundary (s : List UInt8) : ℕ → ℕ → ℕ
  | 0, next => next
  | turns + 1, next =>
    if next < s.length ∧ ! isCharBoundary s next then nextBoundary s turns (next + 1) else next

/-- `handle_char`. -/
def handleChar (s : SettingsState) (c : Char) : Option SettingsState :=
  (insertChar s.api_key s.api_key_cursor c).map fun api_key => ⟨api_key, s.api_key_cursor + c.utf8Size⟩

/-- `handle_backspace`. -/
def handleBackspace (s : SettingsState) : Option SettingsState :=
  if 0 < s.api_key_cursor then do
    let before ← subUsize s.api_key_cursor 1
    let prev := prevBoundary s.api_key before
    (removeChar s.api_key prev).map fun api_key => ⟨api_key, prev⟩
  else some s

/-- `handle_delete`. -/
def handleDelete (s : SettingsState) : Option SettingsState :=
  if s.api_key_cursor < s.api_key.length then
    let next := nextBoundary s.api_key s.api_key.length (s.api_key_cursor + 1)
    (removeRange s.api_key s.api_key_cursor next).map fun api_key => ⟨api_key, s.api_key_cursor⟩
  else some s

/-- `move_cursor_left`. -/
def moveCursorLeft (s : SettingsState) : Option SettingsState :=
  if 0 < s.api_key_cursor then
    (subUsize s.api_key_cursor 1).map fun before => { s with api_key_cursor := prevBoundary s.api_key before }
  else some s

/-- `move_cursor_right`. -/
def moveCursorRight (s : SettingsState) : SettingsState :=
  if s.api_key_cursor < s.api_key.length then
    { s with api_key_cursor := nextBoundary s.api_key s.api_key.length (s.api_key_cursor + 1) }
  else s

/-- One operation, `none` for a panic. -/
def edit (s : SettingsState) : Edit Char → Option SettingsState
  | .insert c => s.handleChar c
  | .backspace => s.handleBackspace
  | .delete => s.handleDelete
  | .left => s.moveCursorLeft
  | .right => some s.moveCursorRight

/-- What an editor on characters is here. -/
def encode (z : Zipper Char) : SettingsState := ⟨utf8 z.toList, (utf8 z.before).length⟩

end SettingsState

/-! ## Boundaries -/

/-- The bytes of two texts follow each other. -/
theorem utf8_append (text text' : List Char) : utf8 (text ++ text') = utf8 text ++ utf8 text' := List.flatMap_append

/-- The bytes of a text begin with those of its first character. -/
theorem utf8_cons (c : Char) (text : List Char) : utf8 (c :: text) = String.utf8EncodeChar c ++ utf8 text :=
  List.flatMap_cons

/-- The bytes of one character. -/
theorem utf8_singleton (c : Char) : utf8 [c] = String.utf8EncodeChar c := List.flatMap_singleton _ _

/-- A byte below 128, or from 192 on, continues no character. -/
theorem isContinuation_eq_false {x : ℕ} (h : x < 128 ∨ 192 ≤ x) (hx : x < 256) :
    isContinuation (UInt8.ofNat x) = false := by
  rw [Bool.eq_false_iff, Ne, isContinuation_iff, toNat_ofNat hx]
  omega

/-- A character is a byte that is no continuation, and continuations. -/
theorem exists_utf8EncodeChar (c : Char) : ∃ first tail, String.utf8EncodeChar c = first :: tail ∧
    isContinuation first = false ∧ (∀ b ∈ tail, isContinuation b = true) ∧ utf8CharWidth first = tail.length + 1 := by
  have hreads := readsAs_utf8EncodeChar c
  have hcont := fun x => isContinuation_ofNat x
  obtain ⟨first, tail, hbytes, hfirst, htail⟩ : ∃ first tail, String.utf8EncodeChar c = first :: tail ∧
      isContinuation first = false ∧ ∀ b ∈ tail, isContinuation b = true := by
    unfold String.utf8EncodeChar
    dsimp only
    rw [← Char.toNat]
    split_ifs with h1 h2 h3
    · exact ⟨_, _, rfl, isContinuation_eq_false (.inl (by omega)) (by omega), nofun⟩
    · refine ⟨_, _, rfl, isContinuation_eq_false (.inr (by omega)) (by omega), ?_⟩
      simp only [List.mem_singleton, forall_eq]
      exact hcont _
    · refine ⟨_, _, rfl, isContinuation_eq_false (.inr (by omega)) (by omega), ?_⟩
      simp only [List.mem_cons, List.not_mem_nil, or_false, forall_eq_or_imp, forall_eq]
      exact ⟨hcont _, hcont _⟩
    · refine ⟨_, _, rfl, isContinuation_eq_false (.inr (by omega)) (by omega), ?_⟩
      simp only [List.mem_cons, List.not_mem_nil, or_false, forall_eq_or_imp, forall_eq]
      exact ⟨hcont _, hcont _, hcont _⟩
  rw [hbytes] at hreads
  exact ⟨first, tail, hbytes, hfirst, htail, hreads.1.symm⟩

/-- The start of a character is a boundary, and so is the end of a text. -/
theorem isCharBoundary_utf8 (pre : List UInt8) (text : List Char) :
    isCharBoundary (pre ++ utf8 text) pre.length = true := by
  unfold isCharBoundary
  rw [Bool.or_eq_true]
  refine .inr ?_
  cases text with
  | nil =>
    have hnil : pre ++ utf8 [] = pre := List.append_nil pre
    rw [hnil, List.getElem?_eq_none le_rfl]
    exact decide_eq_true rfl
  | cons c text =>
    obtain ⟨first, tail, hbytes, hfirst, -⟩ := exists_utf8EncodeChar c
    rw [utf8_cons, hbytes, List.cons_append, List.getElem?_append_right le_rfl, Nat.sub_self, List.getElem?_cons_zero]
    dsimp only
    rw [hfirst]
    rfl

/-- There is no boundary within a character. -/
theorem isCharBoundary_tail (pre : List UInt8) (first : UInt8) {tail : List UInt8} (rest : List UInt8)
    (htail : ∀ b ∈ tail, isContinuation b = true) {k : ℕ} (hk : k < tail.length) :
    isCharBoundary (pre ++ first :: (tail ++ rest)) (pre.length + k + 1) = false := by
  have hindex : (pre ++ first :: (tail ++ rest))[pre.length + k + 1]? = some tail[k] := by
    have hsub : pre.length + k + 1 - pre.length = k + 1 := by omega
    rw [List.getElem?_append_right (by omega), hsub, List.getElem?_cons_succ, List.getElem?_append_left hk,
      List.getElem?_eq_getElem hk]
  unfold isCharBoundary
  rw [hindex, decide_eq_false (Nat.succ_ne_zero _), Bool.false_or]
  dsimp only
  rw [htail _ (List.getElem_mem hk)]
  rfl

namespace SettingsState

/-- To the left of the end of a character is its start. -/
theorem prevBoundary_char (pre : List UInt8) (c : Char) (text : List Char) {k : ℕ}
    (hk : k < (String.utf8EncodeChar c).length) :
    prevBoundary (pre ++ utf8 (c :: text)) (pre.length + k) = pre.length := by
  have hstart := isCharBoundary_utf8 pre (c :: text)
  obtain ⟨first, tail, hbytes, -, htail, -⟩ := exists_utf8EncodeChar c
  induction k with
  | zero =>
    rw [Nat.add_zero]
    cases hpre : pre.length with
    | zero => rfl
    | succ n =>
      rw [hpre] at hstart
      rw [prevBoundary, if_pos hstart]
  | succ k ih =>
    have hlength : k < tail.length := by
      rw [hbytes, List.length_cons] at hk
      omega
    have hinner : isCharBoundary (pre ++ utf8 (c :: text)) (pre.length + k + 1) = false := by
      rw [utf8_cons, hbytes, List.cons_append]
      exact isCharBoundary_tail pre first (utf8 text) htail hlength
    rw [← Nat.add_assoc, prevBoundary, hinner, if_neg Bool.false_ne_true]
    exact ih (Nat.lt_of_succ_lt hk)

/-- To the right of the start of a character is its end. -/
theorem nextBoundary_char (pre : List UInt8) (c : Char) (text : List Char) {k turns : ℕ}
    (hk : k < (String.utf8EncodeChar c).length) (hturns : (String.utf8EncodeChar c).length ≤ turns + k + 1) :
    nextBoundary (pre ++ utf8 (c :: text)) turns (pre.length + k + 1) =
      pre.length + (String.utf8EncodeChar c).length := by
  have hend := isCharBoundary_utf8 (pre ++ String.utf8EncodeChar c) text
  rw [List.append_assoc, ← utf8_cons, List.length_append] at hend
  obtain ⟨first, tail, hbytes, -, htail, -⟩ := exists_utf8EncodeChar c
  have hlength : (String.utf8EncodeChar c).length = tail.length + 1 := congrArg List.length hbytes
  induction turns generalizing k with
  | zero =>
    have hlast : k + 1 = (String.utf8EncodeChar c).length := by omega
    rw [nextBoundary, Nat.add_assoc, hlast]
  | succ turns ih =>
    by_cases hlast : k + 1 = (String.utf8EncodeChar c).length
    · rw [nextBoundary, Nat.add_assoc, hlast, hend, if_neg]
      simp
    · have hk' : k < tail.length := by omega
      have hinner : isCharBoundary (pre ++ utf8 (c :: text)) (pre.length + k + 1) = false := by
        rw [utf8_cons, hbytes, List.cons_append]
        exact isCharBoundary_tail pre first (utf8 text) htail hk'
      have hlt : pre.length + k + 1 < (pre ++ utf8 (c :: text)).length := by
        rw [utf8_cons, List.length_append, List.length_append]
        omega
      rw [nextBoundary, if_pos ⟨hlt, by rw [hinner]; rfl⟩]
      exact ih (k := k + 1) (by omega) (by omega)

/-! ## The refinement -/

/-- The cursor is within the text, on a boundary. -/
theorem isCharBoundary_encode (z : Zipper Char) :
    (encode z).api_key_cursor ≤ (encode z).api_key.length ∧
      isCharBoundary (encode z).api_key (encode z).api_key_cursor = true := by
  have htext : (encode z).api_key = utf8 z.before ++ utf8 z.after := utf8_append z.before z.after
  rw [htext]
  constructor
  · rw [List.length_append]
    exact Nat.le_add_right _ _
  · exact isCharBoundary_utf8 _ _

/-- The string of a zipper, and its cursor. -/
theorem encode_eq (before after : List Char) :
    encode ⟨before, after⟩ = ⟨utf8 before ++ utf8 after, (utf8 before).length⟩ := by
  rw [encode, Zipper.toList, utf8_append]

/-- Typing is an insertion into the zipper. -/
theorem handleChar_encode (z : Zipper Char) (c : Char) :
    (encode z).handleChar c = some (encode (z.edit (.insert c))) := by
  obtain ⟨before, after⟩ := z
  have hedit : (Zipper.mk before after).edit (.insert c) = ⟨before ++ [c], after⟩ := rfl
  rw [hedit, encode_eq, encode_eq, handleChar, insertChar, if_pos (isCharBoundary_utf8 _ _), Option.map_some,
    List.take_left, List.drop_left, utf8_append, utf8_singleton, List.length_append, String.length_utf8EncodeChar]

/-- A character on either side of a cut. -/
theorem utf8_shift (before : List Char) (c : Char) (after : List Char) :
    utf8 (before ++ [c]) ++ utf8 after = utf8 before ++ utf8 (c :: after) := by
  rw [utf8_append, List.append_assoc, utf8_singleton, ← utf8_cons]

/-- A character more makes the text longer by its bytes. -/
theorem length_utf8_concat (before : List Char) (c : Char) :
    (utf8 (before ++ [c])).length = (utf8 before).length + (String.utf8EncodeChar c).length := by
  rw [utf8_append, List.length_append, utf8_singleton]

/-- A character has a byte. -/
theorem length_utf8EncodeChar_pos (c : Char) : 0 < (String.utf8EncodeChar c).length := by
  obtain ⟨first, tail, hbytes, -⟩ := exists_utf8EncodeChar c
  rw [hbytes]
  exact Nat.succ_pos _

/-- The search to the left finds the start of the character before the cursor. -/
theorem prevBoundary_concat (before : List Char) (c : Char) (after : List Char) :
    prevBoundary (utf8 before ++ utf8 (c :: after)) ((utf8 (before ++ [c])).length - 1) = (utf8 before).length := by
  have hpos := length_utf8EncodeChar_pos c
  have hlast : (utf8 (before ++ [c])).length - 1 = (utf8 before).length + ((String.utf8EncodeChar c).length - 1) := by
    rw [length_utf8_concat]
    omega
  rw [hlast]
  exact prevBoundary_char _ _ _ (Nat.sub_lt hpos Nat.one_pos)

/-- A text with a character is not empty. -/
theorem length_concat_pos (before : List Char) (c : Char) : 0 < (utf8 (before ++ [c])).length := by
  rw [length_utf8_concat]
  exact Nat.add_pos_right _ (length_utf8EncodeChar_pos c)

/-- At its end the cursor is not below the length. -/
theorem not_length_lt_nil (before : List Char) : ¬(utf8 before).length < (utf8 before ++ utf8 []).length := by
  rw [List.length_append]
  exact lt_irrefl _

/-- Before a character it is. -/
theorem length_lt_cons (before : List Char) (c : Char) (after : List Char) :
    (utf8 before).length < (utf8 before ++ utf8 (c :: after)).length := by
  have hpos := length_utf8EncodeChar_pos c
  rw [List.length_append, utf8_cons, List.length_append]
  omega

/-- The search to the right finds the end of the character after the cursor. -/
theorem nextBoundary_cons (before : List Char) (c : Char) (after : List Char) :
    nextBoundary (utf8 before ++ utf8 (c :: after)) (utf8 before ++ utf8 (c :: after)).length
      ((utf8 before).length + 1) = (utf8 (before ++ [c])).length := by
  rw [length_utf8_concat]
  refine nextBoundary_char (k := 0) _ _ _ (length_utf8EncodeChar_pos c) ?_
  rw [List.length_append, utf8_cons, List.length_append]
  omega

/-- The first byte of a character tells how many bytes are removed with it. -/
theorem removeChar_cons (before : List Char) (c : Char) (after : List Char) :
    removeChar (utf8 before ++ utf8 (c :: after)) (utf8 before).length = some (utf8 before ++ utf8 after) := by
  obtain ⟨first, tail, hbytes, -, -, hwidth⟩ := exists_utf8EncodeChar c
  have hfirst : (utf8 before ++ utf8 (c :: after))[(utf8 before).length]? = some first := by
    rw [List.getElem?_append_right le_rfl, Nat.sub_self, utf8_cons, hbytes]
    rfl
  have hdrop : (utf8 before ++ utf8 (c :: after)).drop ((utf8 before).length + utf8CharWidth first) = utf8 after := by
    have hlength : utf8CharWidth first = (String.utf8EncodeChar c).length :=
      hwidth.trans (congrArg List.length hbytes).symm
    rw [← utf8_shift, hlength, ← length_utf8_concat, List.drop_left]
  rw [removeChar, if_pos (isCharBoundary_utf8 _ _), hfirst]
  dsimp only
  rw [List.take_left, hdrop]

/-- Backspace removes the character before the cursor. -/
theorem handleBackspace_encode (z : Zipper Char) : (encode z).handleBackspace = some (encode (z.edit .backspace)) := by
  obtain ⟨before, after⟩ := z
  obtain hbefore | ⟨before, c, hbefore⟩ := Zipper.before_cases ⟨before, after⟩
  · dsimp only at hbefore
    subst hbefore
    rfl
  · dsimp only at hbefore
    subst hbefore
    have hedit : (Zipper.mk (before ++ [c]) after).edit .backspace = ⟨before, after⟩ := by
      rw [Zipper.edit, List.dropLast_concat]
    have hpos := length_concat_pos before c
    rw [hedit, encode_eq, encode_eq, handleBackspace, if_pos hpos, utf8_shift]
    dsimp only
    rw [subUsize_eq hpos, Option.bind_eq_bind, Option.bind_some, prevBoundary_concat, removeChar_cons, Option.map_some]

/-- Delete removes the character after the cursor. -/
theorem handleDelete_encode (z : Zipper Char) : (encode z).handleDelete = some (encode (z.edit .delete)) := by
  obtain ⟨before, after⟩ := z
  rw [encode_eq, handleDelete]
  cases after with
  | nil =>
    rw [if_neg (not_length_lt_nil before)]
    exact congrArg some (encode_eq before []).symm
  | cons c after =>
    have hedit : (Zipper.mk before (c :: after)).edit .delete = ⟨before, after⟩ := rfl
    have hle : (utf8 before).length ≤ (utf8 (before ++ [c])).length := by
      rw [length_utf8_concat]
      exact Nat.le_add_right _ _
    -- The end of the character is where the text is cut when the cursor stands after it.
    have hstop := isCharBoundary_utf8 (utf8 (before ++ [c])) after
    rw [utf8_shift] at hstop
    rw [if_pos (length_lt_cons before c after)]
    dsimp only
    rw [nextBoundary_cons, removeRange, if_pos ⟨hle, isCharBoundary_utf8 _ _, hstop⟩, Option.map_some, List.take_left,
      ← utf8_shift, List.drop_left, hedit, encode_eq]

/-- The cursor moves over the character before it. -/
theorem moveCursorLeft_encode (z : Zipper Char) : (encode z).moveCursorLeft = some (encode (z.edit .left)) := by
  obtain ⟨before, after⟩ := z
  obtain hbefore | ⟨before, c, hbefore⟩ := Zipper.before_cases ⟨before, after⟩
  · dsimp only at hbefore
    subst hbefore
    rfl
  · dsimp only at hbefore
    subst hbefore
    have hedit : (Zipper.mk (before ++ [c]) after).edit .left = ⟨before, c :: after⟩ := by
      rw [Zipper.edit, List.getLast?_concat, List.dropLast_concat]
    have hpos := length_concat_pos before c
    rw [hedit, encode_eq, encode_eq, moveCursorLeft, if_pos hpos, utf8_shift]
    dsimp only
    rw [subUsize_eq hpos, Option.map_some, prevBoundary_concat]

/-- The cursor moves over the character after it. -/
theorem moveCursorRight_encode (z : Zipper Char) : (encode z).moveCursorRight = encode (z.edit .right) := by
  obtain ⟨before, after⟩ := z
  rw [encode_eq, moveCursorRight]
  cases after with
  | nil =>
    rw [if_neg (not_length_lt_nil before)]
    exact (encode_eq before []).symm
  | cons c after =>
    have hedit : (Zipper.mk before (c :: after)).edit .right = ⟨before ++ [c], after⟩ := rfl
    rw [if_pos (length_lt_cons before c after)]
    dsimp only
    rw [nextBoundary_cons, hedit, encode_eq, utf8_shift]

/-- **One operation.** It does to the bytes what the editor on characters does, and does not panic. -/
theorem edit_encode (z : Zipper Char) (op : Edit Char) : (encode z).edit op = some (encode (z.edit op)) := by
  cases op with
  | insert c => exact handleChar_encode z c
  | backspace => exact handleBackspace_encode z
  | delete => exact handleDelete_encode z
  | left => exact moveCursorLeft_encode z
  | right => exact congrArg some (moveCursorRight_encode z)

/-- Editing the string is editing the zipper. -/
theorem run_encode (z : Zipper Char) (ops : List (Edit Char)) :
    run edit (encode z) ops = some (encode (z.editAll ops)) := by
  induction ops generalizing z with
  | nil => rfl
  | cons op ops ih => rw [run_cons, edit_encode, Option.bind_some, ih, Zipper.editAll_cons]

/-- Whatever the initial text and the operations are, none of them panics, and the text and the cursor are those of the
editor on characters, in bytes. The cursor is within the text, on a boundary of characters. -/
theorem editor_refines (api_key : Option (List Char)) (ops : List (Edit Char)) :
    ∃ s, run edit (new api_key) ops = some s ∧
      s.api_key = utf8 ((Zipper.atEnd (api_key.getD [])).editAll ops).toList ∧
      s.api_key_cursor = (utf8 ((Zipper.atEnd (api_key.getD [])).editAll ops).before).length ∧
      s.api_key_cursor ≤ s.api_key.length ∧ isCharBoundary s.api_key s.api_key_cursor = true := by
  have hnew : new api_key = encode (Zipper.atEnd (api_key.getD [])) := by
    rw [Zipper.atEnd, encode, Zipper.toList, List.append_nil]
    rfl
  rw [hnew, run_encode]
  exact ⟨_, rfl, rfl, rfl, isCharBoundary_encode _⟩

end SettingsState

end Ttl
