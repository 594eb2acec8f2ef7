import Ttl.Tui.AddTarget
import Ttl.Tui.Keys

/-!
# Keys that panic

In every state that a run reaches a key panics in one situation alone, the details of a hop with no target, and that one
needs a target list that is empty at the start and a session for the unspecified address, which stands for the missing
target (`handleKey_run`). The invariant is that all indices are in range (`InRange`): the selected target and the
selected row, the cursors of the two texts, and the theme.
-/

namespace Ttl

open Runs

/-! ## The target input -/

namespace TargetInputState

/-- The cursor is within the input, which is ASCII. -/
structure Valid (s : TargetInputState) : Prop where
  cursor : s.cursor ≤ s.input.length
  ascii : ∀ c ∈ s.input, c.toNat < 128

/-- An ASCII character is one byte. -/
theorem length_utf8EncodeChar_ascii {c : Char} (h : c.toNat < 128) : (String.utf8EncodeChar c).length = 1 := by
  rw [String.length_utf8EncodeChar, Char.utf8Size_eq_one_iff]
  exact Nat.le_of_lt_succ h

/-- An ASCII text has as many bytes as characters. -/
theorem length_utf8_ascii {text : List Char} (h : ∀ c ∈ text, c.toNat < 128) : (utf8 text).length = text.length := by
  induction text with
  | nil => rfl
  | cons c text ih =>
    rw [List.forall_mem_cons] at h
    rw [utf8_cons, List.length_append, length_utf8EncodeChar_ascii h.1, ih h.2, List.length_cons, Nat.add_comm]

/-- A place of an ASCII text is that of its bytes. -/
theorem length_utf8_take {text : List Char} (h : ∀ c ∈ text, c.toNat < 128) {i : ℕ} (hi : i ≤ text.length) :
    (utf8 (text.take i)).length = i := by
  rw [length_utf8_ascii fun c hc => h c (List.mem_of_mem_take hc), List.length_take, Nat.min_eq_left hi]

/-- An insertion cuts the list in two. -/
theorem insertIdx_eq_take_drop (c : Char) {text : List Char} {i : ℕ} (hi : i ≤ text.length) :
    text.insertIdx i c = text.take i ++ c :: text.drop i := by
  induction text generalizing i with
  | nil =>
    obtain rfl : i = 0 := Nat.le_zero.mp hi
    rfl
  | cons d text ih =>
    cases i with
    | zero => rfl
    | succ i =>
      rw [List.insertIdx_succ_cons, ih (Nat.le_of_succ_le_succ hi), List.take_succ_cons, List.drop_succ_cons,
        List.cons_append]

/-- `String::insert` into an ASCII text inserts into the list. -/
theorem insertChar_ascii {text : List Char} (h : ∀ c ∈ text, c.toNat < 128) {i : ℕ} (hi : i ≤ text.length) (c : Char) :
    insertChar (utf8 text) i c = some (utf8 (text.insertIdx i c)) := by
  have hlength := length_utf8_take h hi
  have hparts : utf8 text = utf8 (text.take i) ++ utf8 (text.drop i) := by
    rw [← utf8_append, List.take_append_drop]
  have hboundary := isCharBoundary_utf8 (utf8 (text.take i)) (text.drop i)
  rw [← hparts, hlength] at hboundary
  have htake : (utf8 text).take i = utf8 (text.take i) := by
    rw [hparts, List.take_left' hlength]
  have hdrop : (utf8 text).drop i = utf8 (text.drop i) := by
    rw [hparts, List.drop_left' hlength]
  rw [insertChar, if_pos hboundary, htake, hdrop, insertIdx_eq_take_drop c hi, utf8_append, utf8_cons, List.append_assoc]

/-- `String::remove` from an ASCII text erases from the list. -/
theorem removeChar_ascii {text : List Char} (h : ∀ c ∈ text, c.toNat < 128) {i : ℕ} (hi : i < text.length) :
    removeChar (utf8 text) i = some (utf8 (text.eraseIdx i)) := by
  have hcons := SettingsState.removeChar_cons (text.take i) text[i] (text.drop (i + 1))
  rw [length_utf8_take h hi.le, ← utf8_append, ← utf8_append, List.getElem_cons_drop, List.take_append_drop] at hcons
  rw [hcons, List.eraseIdx_eq_take_drop_succ]

variable {s : TargetInputState}

/-- A character is inserted where the cursor is. -/
theorem Valid.handleCharChecked (h : s.Valid) (c : Char) : s.handleCharChecked c = some (s.handleChar c) := by
  unfold TargetInputState.handleCharChecked
  split_ifs with hprintable
  · rw [insertChar_ascii h.ascii h.cursor, Option.map_some]
  · rw [TargetInputState.handleChar, if_neg hprintable]

/-- There is a character before a cursor that is not at the start. -/
theorem Valid.handleBackspaceChecked (h : s.Valid) : s.handleBackspaceChecked = some s.handleBackspace := by
  unfold TargetInputState.handleBackspaceChecked
  split_ifs with hpos
  · have hcursor : s.cursor - 1 < s.input.length := Nat.sub_one_lt_of_le hpos h.cursor
    rw [subUsize_eq hpos, Option.bind_eq_bind, Option.bind_some, removeChar_ascii h.ascii hcursor, Option.map_some]
  · rw [TargetInputState.handleBackspace, if_neg hpos]

/-- There is a character after a cursor that is not at the end. -/
theorem Valid.handleDeleteChecked (h : s.Valid) : s.handleDeleteChecked = some s.handleDelete := by
  unfold TargetInputState.handleDeleteChecked
  split_ifs with hcursor
  · rw [removeChar_ascii h.ascii hcursor, Option.map_some]
  · rw [TargetInputState.handleDelete, if_neg hcursor]

/-- The cursor moves to the left of a place that is not the start. -/
theorem moveCursorLeftChecked_eq (s : TargetInputState) : s.moveCursorLeftChecked = some s.moveCursorLeft := by
  unfold moveCursorLeftChecked
  split_ifs with hpos
  · rw [subUsize_eq hpos, Option.map_some]
  · rw [moveCursorLeft, if_neg hpos]

/-- The input is empty at first. -/
theorem valid_default : TargetInputState.default.Valid := ⟨le_rfl, nofun⟩

/-- A printable ASCII character goes before the cursor. -/
theorem Valid.handleChar (h : s.Valid) (c : Char) : (s.handleChar c).Valid := by
  unfold TargetInputState.handleChar
  split_ifs with hprintable
  · refine ⟨?_, fun d hd => ?_⟩
    · rw [List.length_insertIdx_of_le_length h.cursor]
      exact Nat.succ_le_succ h.cursor
    · rcases List.eq_or_mem_of_mem_insertIdx hd with rfl | hmem
      · omega
      · exact h.ascii d hmem
  · exact h

/-- The cursor goes back with the character that is removed. -/
theorem Valid.handleBackspace (h : s.Valid) : s.handleBackspace.Valid := by
  unfold TargetInputState.handleBackspace
  split_ifs with hpos
  · have hcursor : s.cursor - 1 < s.input.length := Nat.sub_one_lt_of_le hpos h.cursor
    refine ⟨?_, fun d hd => h.ascii d (List.mem_of_mem_eraseIdx hd)⟩
    rw [List.length_eraseIdx_of_lt hcursor]
    exact Nat.sub_le_sub_right h.cursor 1
  · exact h

/-- The cursor stays before what follows. -/
theorem Valid.handleDelete (h : s.Valid) : s.handleDelete.Valid := by
  unfold TargetInputState.handleDelete
  split_ifs with hcursor
  · refine ⟨?_, fun d hd => h.ascii d (List.mem_of_mem_eraseIdx hd)⟩
    rw [List.length_eraseIdx_of_lt hcursor]
    exact Nat.le_sub_one_of_lt hcursor
  · exact h

/-- The cursor goes to the left within the input. -/
theorem Valid.moveCursorLeft (h : s.Valid) : s.moveCursorLeft.Valid := by
  unfold TargetInputState.moveCursorLeft
  split_ifs
  · exact ⟨(Nat.sub_le _ _).trans h.cursor, h.ascii⟩
  · exact h

/-- The cursor goes to the right within the input. -/
theorem Valid.moveCursorRight (h : s.Valid) : s.moveCursorRight.Valid := by
  unfold TargetInputState.moveCursorRight
  split_ifs with hcursor
  · exact ⟨hcursor, h.ascii⟩
  · exact h

/-- What is asked and answered leaves the text alone. -/
theorem Valid.congr (h : s.Valid) {t : TargetInputState} (hinput : t.input = s.input) (hcursor : t.cursor = s.cursor) :
    t.Valid :=
  ⟨by rw [hinput, hcursor]; exact h.cursor, hinput ▸ h.ascii⟩

end TargetInputState

namespace App

/-! ## Indices in range -/

/-- The selected target is one, when there are any, so is the selected row while the list is shown, and the cursor of
the target input is within it. -/
structure Indexed (s : App) : Prop where
  selected : s.targets ≠ [] → s.ui.selected_target < s.targets.length
  listed : s.ui.show_target_list = true → s.ui.target_list_index < s.targets.length
  typed : s.ui.target_input.Valid

variable {s t : App}

/-- An element is read and not used. -/
theorem some_map_getElem? {α : Type} {s : App} {i : ℕ} (h : i < s.targets.length) (a : α) :
    (s.targets[i]?.map fun _ => a) = some a := by
  rw [List.getElem?_eq_getElem h]
  rfl

/-- A switch to a target of the list. -/
theorem switchToChecked_eq {i : ℕ} (h : i < s.targets.length) : s.switchToChecked i = some (s.switchTo i) :=
  some_map_getElem? h _

/-- The next target in turn is on the list. -/
theorem next_lt (h : 1 < s.targets.length) : (s.ui.selected_target + 1) % s.targets.length < s.targets.length :=
  Nat.mod_lt _ (by omega)

/-- So is the one before. -/
theorem prev_lt (hs : s.Indexed) (h : 1 < s.targets.length) :
    (if s.ui.selected_target = 0 then s.targets.length - 1 else s.ui.selected_target - 1) < s.targets.length := by
  have hselected := hs.selected (List.ne_nil_of_length_pos (by omega))
  split_ifs <;> omega

/-- The next target is reached without a panic. -/
theorem nextTargetChecked_eq (s : App) : s.nextTargetChecked = some s.nextTarget := by
  unfold nextTargetChecked nextTarget
  split_ifs with h
  · rw [remUsize_eq (Nat.zero_lt_of_lt h), Option.bind_eq_bind, Option.bind_some]
    exact switchToChecked_eq (next_lt h)
  · rfl

/-- So is the one before. -/
theorem prevTargetChecked_eq (hs : s.Indexed) : s.prevTargetChecked = some s.prevTarget := by
  unfold prevTargetChecked prevTarget
  split_ifs with h hfirst
  · have hlt := prev_lt hs h
    rw [if_pos hfirst] at hlt
    rw [subUsize_eq (Nat.zero_lt_of_lt h), Option.bind_eq_bind, Option.bind_some]
    exact switchToChecked_eq hlt
  · have hlt := prev_lt hs h
    rw [if_neg hfirst] at hlt
    rw [subUsize_eq (Nat.pos_of_ne_zero hfirst), Option.bind_eq_bind, Option.bind_some]
    exact switchToChecked_eq hlt
  · rfl

/-- There is a last hop when there is one. -/
theorem selectUpChecked_eq (s : App) : s.selectUpChecked = some s.selectUp := by
  unfold selectUpChecked selectUp withUi
  dsimp only
  split_ifs with hhops
  · have hlast : subUsize s.hopCount 1 = some (s.hopCount - 1) := subUsize_eq hhops
    cases s.ui.selected with
    | none =>
      dsimp only
      rw [hlast]
      rfl
    | some i =>
      dsimp only
      split_ifs with hi
      · rw [subUsize_eq hi]
        rfl
      · rw [hlast]
        rfl
  · rfl

/-- There is a last hop when there is one. -/
theorem selectDownChecked_eq (s : App) : s.selectDownChecked = some s.selectDown := by
  unfold selectDownChecked selectDown withUi
  dsimp only
  split_ifs with hhops
  · have hlast : subUsize s.hopCount 1 = some (s.hopCount - 1) := subUsize_eq hhops
    cases s.ui.selected with
    | none => rfl
    | some i =>
      dsimp only
      rw [hlast]
      rfl
  · rfl

/-- A key without an overlay does not panic. -/
theorem handleMainKeyChecked_eq (hs : s.Indexed) (now : ℕ) (key : KeyEvent) :
    s.handleMainKeyChecked now key = some (s.handleMainKey now key) := by
  obtain ⟨code, control⟩ := key
  unfold handleMainKeyChecked
  dsimp only
  split
  · exact s.nextTargetChecked_eq
  · exact prevTargetChecked_eq hs
  · exact s.selectUpChecked_eq
  · exact s.selectDownChecked_eq
  · exact s.nextTargetChecked_eq
  · exact prevTargetChecked_eq hs
  · exact s.selectUpChecked_eq
  · exact s.selectDownChecked_eq
  · rfl

/-- A key in the target input does not panic: the cursor is within the text, and every place of an ASCII text is a
boundary of its characters. -/
theorem handleTargetInputKeyChecked_eq (hs : s.Indexed) (key : KeyEvent) :
    s.handleTargetInputKeyChecked key = some (s.handleTargetInputKey key) := by
  obtain ⟨code, control⟩ := key
  cases code with
  | Backspace => exact congrArg (Option.map _) hs.typed.handleBackspaceChecked
  | Delete => exact congrArg (Option.map _) hs.typed.handleDeleteChecked
  | Left => exact congrArg (Option.map _) (TargetInputState.moveCursorLeftChecked_eq _)
  | Char c =>
    have hchar := hs.typed.handleCharChecked c
    unfold handleTargetInputKeyChecked handleTargetInputKey
    dsimp only
    split_ifs
    · rfl
    · rw [hchar]
      rfl
  | _ => rfl

/-- A key in the details of a hop panics when its target is not there. -/
theorem handleHopDetailKeyChecked_eq (s : App) (key : KeyEvent) :
    s.handleHopDetailKeyChecked key = s.targets[s.ui.selected_target]?.map fun _ => s.handleHopDetailKey key := by
  obtain ⟨code, control⟩ := key
  rw [handleHopDetailKeyChecked, Option.bind_eq_bind, Option.map_eq_bind]
  congr 1
  funext target
  cases code with
  | Char c =>
    dsimp only
    split_ifs with hdigit
    · have hle : '1'.toNat ≤ c.toNat := hdigit.1
      rw [subUsize_eq hle]
      rfl
    · rfl
  | _ => rfl

/-- A key in the target list does not panic while a row of it is selected. -/
theorem handleTargetListKeyChecked_eq (hs : s.Indexed) (hlist : s.ui.show_target_list = true) (key : KeyEvent) :
    s.handleTargetListKeyChecked key = some (s.handleTargetListKey key) := by
  have hindex := hs.listed hlist
  have hlength : 0 < s.targets.length := Nat.zero_lt_of_lt hindex
  have hup : s.listUpChecked = some (s.withUi fun ui => { ui with
      target_list_index := if 0 < ui.target_list_index then ui.target_list_index - 1 else s.targets.length - 1 }) := by
    unfold listUpChecked withUi
    dsimp only
    split_ifs with hfirst
    · rw [subUsize_eq hfirst]
      rfl
    · rw [subUsize_eq hlength]
      rfl
  have hdown : s.listDownChecked = some (s.withUi fun ui => { ui with
      target_list_index := (ui.target_list_index + 1) % s.targets.length }) := by
    rw [listDownChecked, remUsize_eq hlength]
    rfl
  obtain ⟨code, control⟩ := key
  cases code with
  | Enter => exact some_map_getElem? hindex _
  | Up => exact hup
  | Down => exact hdown
  | Char c =>
    unfold handleTargetListKeyChecked handleTargetListKey
    dsimp only
    split_ifs with hk hj hdigit hnum
    · exact hup
    · exact hdown
    · have hzero : '0'.toNat ≤ c.toNat := by
        have hle := (Bool.and_eq_true _ _ ▸ hdigit).1
        exact of_decide_eq_true hle
      have hlt : c.toNat - '0'.toNat - 1 < s.targets.length := by omega
      rw [listDigitChecked, subUsize_eq hzero, Option.bind_eq_bind, Option.bind_some, if_pos hnum,
        subUsize_eq hnum.1, Option.bind_eq_bind, Option.bind_some, chooseTargetChecked, some_map_getElem? hlt]
      rfl
    · have hzero : '0'.toNat ≤ c.toNat := by
        have hle := (Bool.and_eq_true _ _ ▸ hdigit).1
        exact of_decide_eq_true hle
      rw [listDigitChecked, subUsize_eq hzero, Option.bind_eq_bind, Option.bind_some, if_neg hnum]
    · rfl
  | _ => rfl

/-! ## Every state has its indices in range -/

/-- What a handler may do to the indices. -/
theorem Indexed.of (hs : s.Indexed) (htargets : t.targets = s.targets)
    (hselected : t.ui.selected_target = s.ui.selected_target ∨ t.ui.selected_target < s.targets.length)
    (hlist : t.ui.show_target_list = true →
      (s.ui.show_target_list = true ∧ t.ui.target_list_index = s.ui.target_list_index) ∨
        t.ui.target_list_index < s.targets.length)
    (htyped : t.ui.target_input.Valid) : t.Indexed := by
  refine ⟨?_, ?_, htyped⟩
  · intro hne
    rw [htargets] at hne ⊢
    rcases hselected with heq | hlt
    · rw [heq]
      exact hs.selected hne
    · exact hlt
  · intro hshown
    rw [htargets]
    rcases hlist hshown with ⟨hbefore, heq⟩ | hlt
    · rw [heq]
      exact hs.listed hbefore
    · exact hlt

/-- Nothing of the indices of targets is changed. -/
theorem Indexed.same (hs : s.Indexed) (htargets : t.targets = s.targets)
    (hselected : t.ui.selected_target = s.ui.selected_target)
    (hlist : t.ui.show_target_list = s.ui.show_target_list) (hindex : t.ui.target_list_index = s.ui.target_list_index)
    (htyped : t.ui.target_input.Valid) : t.Indexed :=
  hs.of htargets (.inl hselected) (fun h => .inl ⟨hlist.symm.trans h, hindex⟩) htyped

/-- The state is in range, whichever branch is taken. -/
theorem Indexed.ite {P : Prop} [Decidable P] {u : App} (ht : t.Indexed) (hu : u.Indexed) :
    (if P then t else u).Indexed := by
  split_ifs
  · exact ht
  · exact hu

/-- Going to a target in range keeps the indices in range. -/
theorem Indexed.switchTo (hs : s.Indexed) {i : ℕ} (hi : i < s.targets.length) : (s.switchTo i).Indexed :=
  hs.of rfl (.inr hi) (fun h => .inl ⟨h, rfl⟩) hs.typed

/-- The next target is in range. -/
theorem Indexed.nextTarget (hs : s.Indexed) : s.nextTarget.Indexed := by
  unfold App.nextTarget
  split_ifs with h
  · exact hs.switchTo (next_lt h)
  · exact hs

/-- The previous target is in range. -/
theorem Indexed.prevTarget (hs : s.Indexed) : s.prevTarget.Indexed := by
  by_cases h : 1 < s.targets.length
  · rw [App.prevTarget, if_pos h]
    exact hs.switchTo (prev_lt hs h)
  · rw [App.prevTarget, if_neg h]
    exact hs

/-- The target list opens on a row in range. -/
theorem Indexed.openTargetList (hs : s.Indexed) : s.openTargetList.Indexed := by
  unfold App.openTargetList
  split_ifs with h
  · have hselected := hs.selected (List.ne_nil_of_length_pos (by omega))
    exact hs.of rfl (.inl rfl) (fun _ => .inr hselected) hs.typed
  · exact hs

/-- Selecting the row above keeps the indices in range. -/
theorem Indexed.selectUp (hs : s.Indexed) : s.selectUp.Indexed := by
  unfold App.selectUp
  exact .ite (hs.same rfl rfl rfl rfl hs.typed) hs

/-- Selecting the row below keeps the indices in range. -/
theorem Indexed.selectDown (hs : s.Indexed) : s.selectDown.Indexed := by
  unfold App.selectDown
  exact .ite (hs.same rfl rfl rfl rfl hs.typed) hs

/-- A key of the main view keeps the indices in range. -/
theorem Indexed.handleMainKey (hs : s.Indexed) (now : ℕ) (key : KeyEvent) : (s.handleMainKey now key).Indexed := by
  obtain ⟨code, control⟩ := key
  cases code with
  | Char c =>
    refine .ite (hs.same rfl rfl rfl rfl hs.typed) (.ite (hs.same rfl rfl rfl rfl hs.typed)
      (.ite hs.nextTarget (.ite hs.prevTarget ?_)))
    refine .ite (hs.same rfl rfl rfl rfl hs.typed) (.ite (hs.same rfl rfl rfl rfl hs.typed) ?_)
    refine .ite (hs.same rfl rfl rfl rfl hs.typed) (.ite (hs.same rfl rfl rfl rfl TargetInputState.valid_default) ?_)
    exact .ite hs.openTargetList (.ite hs.selectUp (.ite hs.selectDown hs))
  | Tab => exact hs.nextTarget
  | BackTab => exact hs.prevTarget
  | Up => exact hs.selectUp
  | Down => exact hs.selectDown
  | Enter => exact .ite (hs.same rfl rfl rfl rfl hs.typed) hs
  | Esc => exact hs.same rfl rfl rfl rfl hs.typed
  | _ => exact hs

/-- A key in the target input moves its cursor alone. -/
theorem Indexed.handleTargetInputKey (hs : s.Indexed) (key : KeyEvent) : (s.handleTargetInputKey key).Indexed := by
  have htype {f : TargetInputState → TargetInputState} (h : (f s.ui.target_input).Valid) :
      (s.withUi fun ui => { ui with target_input := f ui.target_input }).Indexed :=
    hs.same rfl rfl rfl rfl h
  have hsubmit : s.submitTarget.Indexed := by
    unfold submitTarget
    exact .ite hs (.ite (hs.same rfl rfl rfl rfl (hs.typed.congr rfl rfl))
      (hs.same rfl rfl rfl rfl (hs.typed.congr rfl rfl)))
  obtain ⟨code, control⟩ := key
  cases code with
  | Enter => exact hsubmit
  | Char c => exact .ite hs (htype (hs.typed.handleChar c))
  | Esc => exact hs.same rfl rfl rfl rfl TargetInputState.valid_default
  | Backspace => exact htype hs.typed.handleBackspace
  | Delete => exact htype hs.typed.handleDelete
  | Left => exact htype hs.typed.moveCursorLeft
  | Right => exact htype hs.typed.moveCursorRight
  | _ => exact hs

/-- A key of the settings leaves the indices in range. -/
theorem Indexed.handleSettingsKey (hs : s.Indexed) (key : KeyEvent) : (s.handleSettingsKey key).Indexed := by
  unfold App.handleSettingsKey
  split
  · exact hs.same rfl rfl rfl rfl hs.typed
  · exact hs

/-- A key of the details of a hop keeps the indices in range. -/
theorem Indexed.handleHopDetailKey (hs : s.Indexed) (key : KeyEvent) : (s.handleHopDetailKey key).Indexed := by
  obtain ⟨code, control⟩ := key
  cases code with
  | Char c =>
    refine .ite (hs.same rfl rfl rfl rfl hs.typed) (.ite (hs.same rfl rfl rfl rfl hs.typed) ?_)
    exact .ite (hs.same rfl rfl rfl rfl hs.typed) (.ite (hs.same rfl rfl rfl rfl hs.typed) hs)
  | Up => exact hs.same rfl rfl rfl rfl hs.typed
  | Down => exact hs.same rfl rfl rfl rfl hs.typed
  | Esc => exact hs.same rfl rfl rfl rfl hs.typed
  | Enter => exact hs.same rfl rfl rfl rfl hs.typed
  | _ => exact hs

/-- Choosing a row in range keeps the indices in range. -/
theorem Indexed.chooseTarget (hs : s.Indexed) {i : ℕ} (hi : i < s.targets.length) : (s.chooseTarget i).Indexed :=
  hs.of rfl (.inr hi) nofun hs.typed

/-- A key of the target list keeps the indices in range. -/
theorem Indexed.handleTargetListKey (hs : s.Indexed) (hlist : s.ui.show_target_list = true) (key : KeyEvent) :
    (s.handleTargetListKey key).Indexed := by
  have hindex := hs.listed hlist
  have hup : (s.withUi fun ui => { ui with
      target_list_index :=
        if 0 < ui.target_list_index then ui.target_list_index - 1 else s.targets.length - 1 }).Indexed := by
    refine hs.of rfl (.inl rfl) (fun _ => .inr ?_) hs.typed
    change (if 0 < s.ui.target_list_index then s.ui.target_list_index - 1 else s.targets.length - 1) < s.targets.length
    split_ifs <;> omega
  have hdown : (s.withUi fun ui => { ui with
      target_list_index := (ui.target_list_index + 1) % s.targets.length }).Indexed :=
    hs.of rfl (.inl rfl) (fun _ => .inr (Nat.mod_lt _ (Nat.zero_lt_of_lt hindex))) hs.typed
  obtain ⟨code, control⟩ := key
  cases code with
  | Esc => exact hs.of rfl (.inl rfl) nofun hs.typed
  | Enter => exact hs.chooseTarget hindex
  | Up => exact hup
  | Down => exact hdown
  | Char c =>
    refine .ite hup (.ite hdown (.ite ?_ hs))
    dsimp only
    split_ifs with hnum
    · exact hs.of rfl (.inr (show c.toNat - '0'.toNat - 1 < s.targets.length by omega)) nofun hs.typed
    · exact hs
  | _ => exact hs

/-- Every key keeps the indices in range. -/
theorem Indexed.handleKey (hs : s.Indexed) (now : ℕ) (key : KeyEvent) : (s.handleKey now key).Indexed := by
  unfold App.handleKey
  split_ifs with hhelp hinput hsettings hdetail hlist
  · exact hs.same rfl rfl rfl rfl hs.typed
  · exact hs.handleTargetInputKey key
  · exact hs.handleSettingsKey key
  · exact hs.handleHopDetailKey key
  · exact hs.handleTargetListKey hlist key
  · exact hs.handleMainKey now key

/-- A poll that finds an added target selects it in range. -/
theorem Indexed.pollAddTargetResult (hs : s.Indexed) : s.pollAddTargetResult.Indexed := by
  unfold App.pollAddTargetResult
  split
  · exact hs
  · split
    · next added _ =>
      unfold selectAdded
      dsimp only
      split
      · next idx hidx =>
        obtain ⟨hlt, -, -⟩ := List.idxOf?_eq_some_iff.mp hidx
        refine ⟨fun _ => hlt, fun hshown => (hs.listed hshown).trans_le ?_, TargetInputState.valid_default⟩
        -- The list only grows.
        split_ifs
        · exact le_rfl
        · rw [List.length_append]
          exact Nat.le_add_right _ _
      · next hidx =>
        -- The target is on the list.
        have hmem : added.ip ∈ if added.ip ∈ s.targets then s.targets else s.targets ++ [added.ip] := by
          split_ifs with h
          · exact h
          · exact List.mem_append_right _ (List.mem_singleton_self _)
        exact absurd hidx (Option.isSome_iff_ne_none.mp (List.isSome_idxOf?.mpr hmem))
    · exact hs.same rfl rfl rfl rfl (hs.typed.congr rfl rfl)
    · exact .ite (hs.same rfl rfl rfl rfl (hs.typed.congr rfl rfl)) hs

/-- Every step keeps the indices in range. -/
theorem indexed_step (s : App) (a : Action) (t : App) (hs : s.Indexed) (hstep : s.step a = some t) : t.Indexed := by
  cases (step_cases hstep).2 with
  | key now key => exact hs.handleKey now key
  | poll => exact hs.pollAddTargetResult
  | @manage request requests queue resolved refused config now =>
    obtain ⟨htargets, hui⟩ := frame_manage { s with requests := requests } request resolved refused config now
    have hinput := congrArg UiState.target_input hui
    exact hs.same htargets (congrArg UiState.selected_target hui) (congrArg UiState.show_target_list hui)
      (congrArg UiState.target_list_index hui)
      (hs.typed.congr (congrArg TargetInputState.input hinput) (congrArg TargetInputState.cursor hinput))
  | close => exact hs.same rfl rfl rfl rfl hs.typed
  | trace target running => exact hs.same rfl rfl rfl rfl hs.typed

/-- The indices are in range at the start. -/
theorem indexed_start (targets : List IpAddr) (config : IpAddr → Config) (now : ℕ) :
    (start targets config now).Indexed :=
  ⟨List.length_pos_of_ne_nil, nofun, TargetInputState.valid_default⟩

/-! ## No target -/

/-- No hop is selected, and no details are shown. -/
def Blank (s : App) : Prop := s.ui.selected = none ∧ s.ui.show_hop_detail = false

/-- While there is no target, no session stands for it, and there is no hop to look at. -/
structure Quiet (s : App) : Prop where
  session : s.targets = [] → s.sessions.lookup unspecified = none
  blank : s.targets = [] → s.Blank

/-- The manager does not add the address that stands for a missing target. -/
def AddsNoUnspecified (_ : App) : Action → Prop
  | .manage (.ok ip) _ _ _ => ip ≠ unspecified
  | _ => True

instance (s : App) : DecidablePred s.AddsNoUnspecified
  | .manage (.ok ip) _ _ _ => inferInstanceAs (Decidable (ip ≠ unspecified))
  | .manage (.error _) _ _ _ => .isTrue trivial
  | .key _ _ => .isTrue trivial
  | .poll => .isTrue trivial
  | .close => .isTrue trivial
  | .trace _ _ => .isTrue trivial

/-- No hop is looked at, whichever branch is taken. -/
theorem Blank.ite {P : Prop} [Decidable P] {u : App} (ht : t.Blank) (hu : u.Blank) : (if P then t else u).Blank := by
  split_ifs
  · exact ht
  · exact hu

/-- Without a target and a session that stands for it, there are no hops. -/
theorem hopCount_eq_zero (htargets : s.targets = []) (hsession : s.sessions.lookup unspecified = none) :
    s.hopCount = 0 := by
  rw [hopCount, currentTarget, target, htargets, List.getElem?_nil, Option.getD_none, hsession]
  rfl

/-- Without a target and a session that stands for it, a key of the main view selects no hop. -/
theorem Blank.handleMainKey (hs : s.Blank) (htargets : s.targets = [])
    (hsession : s.sessions.lookup unspecified = none) (now : ℕ) (key : KeyEvent) : (s.handleMainKey now key).Blank := by
  have hhops := hopCount_eq_zero htargets hsession
  have hmany : ¬ 1 < s.targets.length := by
    rw [htargets]
    exact Nat.not_lt_zero 1
  have hnext : s.nextTarget.Blank := by rwa [nextTarget, if_neg hmany]
  have hprev : s.prevTarget.Blank := by rwa [prevTarget, if_neg hmany]
  have hlist : s.openTargetList.Blank := by rwa [openTargetList, if_neg hmany]
  have hup : s.selectUp.Blank := by
    rw [selectUp]
    rwa [hhops, if_neg (lt_irrefl 0)]
  have hdown : s.selectDown.Blank := by
    rw [selectDown]
    rwa [hhops, if_neg (lt_irrefl 0)]
  have henter : ¬ s.ui.selected.isSome = true := by
    rw [hs.1]
    exact Bool.false_ne_true
  have hclear : (s.withUi fun ui => { ui with selected := none }).Blank := ⟨rfl, hs.2⟩
  obtain ⟨code, control⟩ := key
  cases code with
  | Char c =>
    refine .ite hs (.ite hs (.ite hnext (.ite hprev (.ite hs (.ite hs (.ite hs (.ite hs ?_)))))))
    exact .ite hlist (.ite hup (.ite hdown hs))
  | Tab => exact hnext
  | BackTab => exact hprev
  | Up => exact hup
  | Down => exact hdown
  | Enter =>
    rw [App.handleMainKey]
    dsimp only
    rwa [if_neg henter]
  | Esc => exact hclear
  | _ => exact hs

/-- A key of the target input selects no hop. -/
theorem Blank.handleTargetInputKey (hs : s.Blank) (key : KeyEvent) : (s.handleTargetInputKey key).Blank := by
  have hsubmit : s.submitTarget.Blank := by
    unfold submitTarget
    exact .ite hs (.ite hs hs)
  obtain ⟨code, control⟩ := key
  cases code with
  | Enter => exact hsubmit
  | Char c => exact .ite hs hs
  | _ => exact hs

/-- A key selects no hop while there is no target. -/
theorem Blank.handleKey (hs : s.Blank) (hi : s.Indexed) (htargets : s.targets = [])
    (hsession : s.sessions.lookup unspecified = none) (now : ℕ) (key : KeyEvent) : (s.handleKey now key).Blank := by
  unfold App.handleKey
  split_ifs with hhelp hinput hsettings hdetail hlist
  · exact hs
  · exact hs.handleTargetInputKey key
  · unfold handleSettingsKey
    split <;> exact hs
  · exact absurd (hs.2.symm.trans hdetail) Bool.false_ne_true
  · have hindex := hi.listed hlist
    rw [htargets] at hindex
    exact absurd hindex (Nat.not_lt_zero _)
  · exact hs.handleMainKey htargets hsession now key

/-- Every key keeps the state quiet. -/
theorem Quiet.handleKey (hs : s.Quiet) (hi : s.Indexed) (now : ℕ) (key : KeyEvent) : (s.handleKey now key).Quiet := by
  obtain ⟨htargets, hsessions⟩ := s.frame_handleKey now key
  constructor
  · intro hnil
    rw [htargets] at hnil
    refine Option.not_isSome_iff_eq_none.mp fun hsome => ?_
    rw [hsessions, hs.session hnil] at hsome
    cases hsome
  · intro hnil
    rw [htargets] at hnil
    exact (hs.blank hnil).handleKey hi hnil (hs.session hnil) now key

/-- A poll keeps the state quiet. -/
theorem Quiet.pollAddTargetResult (hs : s.Quiet) : s.pollAddTargetResult.Quiet := by
  unfold App.pollAddTargetResult
  split
  · exact hs
  · split
    · next added _ =>
      -- There is a target by now.
      have hne : (s.selectAdded added).targets ≠ [] := by
        rw [targets_selectAdded]
        split_ifs with hmem
        · exact List.ne_nil_of_mem hmem
        · exact List.append_ne_nil_of_right_ne_nil _ (List.cons_ne_nil _ _)
      exact ⟨fun hnil => absurd hnil hne, fun hnil => absurd hnil hne⟩
    · exact ⟨hs.session, hs.blank⟩
    · split_ifs
      · exact ⟨hs.session, hs.blank⟩
      · exact hs

/-- The manager keeps the state quiet, when it does not add the unspecified address. -/
theorem Quiet.manage (hs : s.Quiet) (request : AddTargetRequest) {resolved : Except (List Char) IpAddr}
    (hresolved : resolved ≠ .ok unspecified) (refused : Option (List Char)) (config : Config) (now : ℕ) :
    (s.manage request resolved refused config now).Quiet := by
  obtain ⟨htargets, hui⟩ := s.frame_manage request resolved refused config now
  constructor
  · intro hnil
    rw [htargets] at hnil
    have hnone := hs.session hnil
    unfold App.manage
    cases resolved with
    | error e => exact hnone
    | ok ip =>
      have hne : unspecified ≠ ip := fun heq => hresolved (heq ▸ rfl)
      dsimp only
      split_ifs
      · exact hnone
      · cases refused with
        | some e => exact hnone
        | none => exact ((KeyMap.lookup_insert _ _ _ _).trans (if_neg hne)).trans hnone
  · intro hnil
    rw [htargets] at hnil
    rw [Blank, hui]
    exact hs.blank hnil

/-- Every step keeps the state quiet, when the manager does not add the unspecified address. -/
theorem quiet_step {a : Action} (hs : s.Quiet) (hi : s.Indexed) (ha : s.AddsNoUnspecified a)
    (hstep : s.step a = some t) : t.Quiet := by
  cases (step_cases hstep).2 with
  | key now key => exact hs.handleKey hi now key
  | poll => exact hs.pollAddTargetResult
  | @manage request requests queue resolved refused config now =>
    have hnext : Quiet { s with requests := requests } := ⟨hs.session, hs.blank⟩
    refine hnext.manage request (fun heq => ?_) refused config now
    rw [heq] at ha
    exact ha rfl
  | close => exact ⟨hs.session, hs.blank⟩
  | trace target running =>
    refine ⟨fun hnil => ?_, hs.blank⟩
    have hnone := hs.session hnil
    dsimp only
    rw [KeyMap.lookup_modify]
    split_ifs with h
    · rw [← h, hnone]
      rfl
    · exact hnone

/-- The state is quiet at the start. -/
theorem quiet_start (targets : List IpAddr) (config : IpAddr → Config) (now : ℕ) :
    (start targets config now).Quiet where
  session hnil := by
    have htargets : targets = [] := hnil
    rw [htargets]
    rfl
  blank _ := ⟨rfl, rfl⟩

/-! ## Runs -/

/-- A run that starts with a target keeps one. -/
theorem targets_ne_nil {targets : List IpAddr} {config : IpAddr → Config} {now : ℕ} {as : List Action}
    (h : run step (start targets config now) as = some s) (hne : targets ≠ []) : s.targets ≠ [] := by
  obtain ⟨x, hrecorded⟩ : ∃ x, run (recorded noteDialog step) (start targets config now, .empty) as = some (s, x) :=
    exists_run_recorded h Exchange.empty
  have hprefix := (rotation_run hrecorded).shown
  intro hnil
  rw [hnil] at hprefix
  exact hne (List.prefix_nil.mp hprefix)

/-- There are no details of nothing where no hop is selected without a target. -/
theorem Quiet.not_detailsOfNothing (hs : s.Quiet) : ¬ s.DetailsOfNothing := by
  rintro ⟨hnil, hdetail, -, -, -⟩
  exact absurd (hdetail.symm.trans (hs.blank hnil).2) Bool.noConfusion

end App

namespace RunApp

variable {s t : RunApp}

/-- All indices are in range: those of the dialogs, the theme, and what the settings hold. -/
structure InRange (s : RunApp) : Prop where
  app : s.app.Indexed
  theme : s.theme_index < themeNames.length
  settings : s.settings.Valid

/-- A key does to the `App` what `app` is, does not panic, and leaves the theme and the settings in range. -/
def Handles (r : Option RunApp) (app : App) : Prop :=
  ∃ t, r = some t ∧ t.app = app ∧ t.theme_index < themeNames.length ∧ t.settings.Valid

/-- The settings alone change. -/
theorem InRange.handles_withSettings (hs : s.InRange) {r : Option Settings} (h : ∃ x, r = some x ∧ x.Valid) :
    Handles (r.map s.withSettings) s.app := by
  obtain ⟨x, rfl, hx⟩ := h
  exact ⟨_, rfl, rfl, hs.theme, hx⟩

/-- The theme follows that of the settings. -/
theorem handles_previewTheme {r : Option Settings} (h : ∃ x, r = some x ∧ x.Valid) :
    Handles (r.map s.previewTheme) s.app := by
  obtain ⟨x, rfl, hx⟩ := h
  exact ⟨_, rfl, rfl, hx.theme, hx⟩

/-- The `App` alone changes. -/
theorem InRange.handles_withApp (hs : s.InRange) {r : Option App} {app : App} (h : r = some app) :
    Handles (r.map s.withApp) app := by
  rw [h]
  exact ⟨_, rfl, rfl, hs.theme, hs.settings⟩

/-- Nothing changes. -/
theorem InRange.handles_stay (hs : s.InRange) : Handles (some s) s.app := ⟨s, rfl, rfl, hs.theme, hs.settings⟩

/-- `Esc` applies what the settings hold. -/
theorem InRange.handles_closeSettings (hs : s.InRange) :
    Handles (some s.closeSettings) (s.app.withUi fun ui => { ui with show_settings := false }) :=
  ⟨_, rfl, rfl, hs.settings.theme, hs.settings⟩

/-- `Enter` changes the update check or the display mode. -/
theorem InRange.handles_choose (hs : s.InRange) : Handles (some s.choose) s.app := by
  unfold choose
  split_ifs
  · exact ⟨_, rfl, rfl, hs.theme, hs.settings.congr hs.settings.theme rfl⟩
  · exact ⟨_, rfl, rfl, hs.theme, hs.settings.select⟩

/-- One of two ways. -/
theorem Handles.ite {P : Prop} [Decidable P] {r r' : Option RunApp} {app : App} (h : Handles r app)
    (h' : Handles r' app) : Handles (if P then r else r') app := by
  split_ifs
  · exact h
  · exact h'

/-- A key in the section of the PeeringDB key. -/
theorem InRange.handleKeySection (hs : s.InRange) (key : KeyEvent) :
    Handles (s.handleKeySection key) (s.app.handleSettingsKey key) := by
  have hedit (op : Edit Char) : Handles ((s.settings.editKey op).map s.withSettings) s.app :=
    hs.handles_withSettings (hs.settings.editKey op)
  obtain ⟨code, control⟩ := key
  cases code with
  | Esc => exact hs.handles_closeSettings
  | Tab => exact hs.handles_withSettings (hs.settings.nextSection _)
  | Backspace => exact hedit .backspace
  | Delete => exact hedit .delete
  | Left => exact hedit .left
  | Right => exact hedit .right
  | Char c => exact .ite hs.handles_stay (hedit (.insert c))
  | _ => exact hs.handles_stay

/-- A key in another section. -/
theorem InRange.handleThemeSection (hs : s.InRange) (key : KeyEvent) :
    Handles (s.handleThemeSection key) (s.app.handleSettingsKey key) := by
  have hup : Handles (s.settings.moveUp.map s.previewTheme) s.app := handles_previewTheme hs.settings.moveUp
  have hdown : Handles ((s.settings.moveDown themeNames.length).map s.previewTheme) s.app :=
    handles_previewTheme hs.settings.moveDown
  obtain ⟨code, control⟩ := key
  cases code with
  | Esc => exact hs.handles_closeSettings
  | Up => exact hup
  | Down => exact hdown
  | Tab => exact hs.handles_withSettings (hs.settings.nextSection _)
  | Enter => exact hs.handles_choose
  | Char c => exact .ite hup (.ite hdown (.ite hs.handles_choose hs.handles_stay))
  | _ => exact hs.handles_stay

/-- The next theme is on the list. -/
theorem InRange.nextTheme (hs : s.InRange) : Handles s.nextTheme s.app := by
  have hpos : 0 < themeNames.length := Nat.zero_lt_of_lt hs.theme
  have hlt : (s.theme_index + 1) % themeNames.length < themeNames.length := Nat.mod_lt _ hpos
  rw [RunApp.nextTheme, remUsize_eq hpos, Option.bind_eq_bind, Option.bind_some, List.getElem?_eq_getElem hlt]
  exact ⟨_, rfl, rfl, hlt, hs.settings.congr hlt rfl⟩

/-- A key without an overlay. -/
theorem InRange.handleMainKey (hs : s.InRange) (now : ℕ) (key : KeyEvent) :
    Handles (s.handleMainKey now key) (s.app.handleMainKey now key) := by
  obtain ⟨code, control⟩ := key
  unfold RunApp.handleMainKey
  dsimp only
  split
  · exact hs.nextTheme
  · exact ⟨_, rfl, rfl, hs.theme, hs.settings.congr hs.settings.theme rfl⟩
  · have hreopened := hs.settings.reopen hs.theme s.display_mode
    exact ⟨_, rfl, rfl, hs.theme, hreopened.congr hreopened.theme rfl⟩
  · exact hs.handles_withApp (App.handleMainKeyChecked_eq hs.app now _)

/-- **One key** panics in the details of a hop with no target. Elsewhere it does to the dialogs, the targets and the
sessions what the handler without the panics does, and leaves all indices in range. -/
theorem InRange.handleKey (hs : s.InRange) (now : ℕ) (key : KeyEvent) :
    if s.app.DetailsOfNothing then s.handleKey now key = none
    else ∃ t, s.handleKey now key = some t ∧ t.app = s.app.handleKey now key ∧ t.InRange := by
  have hhandles {r : Option RunApp} {app : App} (h : Handles r app) (happ : app = s.app.handleKey now key) :
      ∃ t, r = some t ∧ t.app = s.app.handleKey now key ∧ t.InRange := by
    obtain ⟨t, hr, ht, htheme, hsettings⟩ := h
    exact ⟨t, hr, ht.trans happ, (ht.trans happ) ▸ hs.app.handleKey now key, htheme, hsettings⟩
  split_ifs with hnothing
  · obtain ⟨hnil, hdetail, hhelp, hinput, hsettings⟩ := hnothing
    rw [RunApp.handleKey, hhelp, if_neg Bool.false_ne_true, hinput, if_neg Bool.false_ne_true, hsettings,
      if_neg Bool.false_ne_true, if_pos hdetail, App.handleHopDetailKeyChecked_eq, hnil]
    rfl
  · unfold RunApp.handleKey
    split_ifs with hhelp hinput hsettings hsection hdetail hlist
    · refine hhandles (hs.handles_withApp (r := some _) rfl) ?_
      rw [App.handleKey, if_pos hhelp]
    · refine hhandles (hs.handles_withApp (App.handleTargetInputKeyChecked_eq hs.app key)) ?_
      rw [App.handleKey, if_neg hhelp, if_pos hinput]
    · refine hhandles (hs.handleKeySection key) ?_
      rw [App.handleKey, if_neg hhelp, if_neg hinput, if_pos hsettings]
    · refine hhandles (hs.handleThemeSection key) ?_
      rw [App.handleKey, if_neg hhelp, if_neg hinput, if_pos hsettings]
    · have hne : s.app.targets ≠ [] := fun hnil =>
        hnothing ⟨hnil, hdetail, Bool.eq_false_of_not_eq_true hhelp, Bool.eq_false_of_not_eq_true hinput,
          Bool.eq_false_of_not_eq_true hsettings⟩
      have hkey : s.app.handleHopDetailKeyChecked key = some (s.app.handleHopDetailKey key) := by
        rw [App.handleHopDetailKeyChecked_eq, App.some_map_getElem? (hs.app.selected hne)]
      refine hhandles (hs.handles_withApp hkey) ?_
      rw [App.handleKey, if_neg hhelp, if_neg hinput, if_neg hsettings, if_pos hdetail]
    · refine hhandles (hs.handles_withApp (App.handleTargetListKeyChecked_eq hs.app hlist key)) ?_
      rw [App.handleKey, if_neg hhelp, if_neg hinput, if_neg hsettings, if_neg hdetail, if_pos hlist]
    · refine hhandles (hs.handleMainKey now key) ?_
      rw [App.handleKey, if_neg hhelp, if_neg hinput, if_neg hsettings, if_neg hdetail, if_neg hlist]

/-- **One step** keeps all indices in range, and is one of the `App`. -/
theorem InRange.step {a : App.Action} (hs : s.InRange) (hstep : s.step a = some t) :
    s.app.step a = some t.app ∧ t.InRange := by
  have hother (h : (s.app.step a).map s.withApp = some t) : s.app.step a = some t.app ∧ t.InRange := by
    obtain ⟨app, happ, rfl⟩ := Option.map_eq_some_iff.mp h
    exact ⟨happ, App.indexed_step _ _ _ hs.app happ, hs.theme, hs.settings⟩
  cases a with
  | key now key =>
    unfold RunApp.step at hstep
    dsimp only at hstep
    split_ifs at hstep with hcancelled
    have hkey := hs.handleKey now key
    split_ifs at hkey with hnothing
    · exact absurd (hkey.symm.trans hstep) nofun
    · obtain ⟨u, hu, happ, hrange⟩ := hkey
      obtain rfl : u = t := Option.some.inj (hu.symm.trans hstep)
      rw [happ, App.step, if_neg hcancelled]
      exact ⟨rfl, hrange⟩
  | poll => exact hother hstep
  | manage resolved refused config now => exact hother hstep
  | close => exact hother hstep
  | trace target op => exact hother hstep

section

variable {prefs : Prefs} {ix_enabled : Bool} {targets : List IpAddr} {config : IpAddr → Config} {now : ℕ}
  {as : List App.Action}

/-- The theme of the preferences is on the list, or the first is taken. -/
theorem inRange_start (prefs : Prefs) (ix_enabled : Bool) (targets : List IpAddr) (config : IpAddr → Config) (now : ℕ) :
    (start prefs ix_enabled targets config now).InRange := by
  have htheme : (themeNames.findIdx? prefs.theme).getD 0 < themeNames.length := by
    cases hfound : themeNames.findIdx? prefs.theme with
    | none => exact Nat.succ_pos 10
    | some i => exact (List.findIdx?_eq_some_iff_findIdx_eq.mp hfound).1
  have hsettings := Settings.Valid.new htheme (prefs.display_mode.getD .Auto) prefs.peeringdb_api_key
  exact ⟨App.indexed_start targets config now, htheme, hsettings.congr htheme rfl⟩

/-- A run is one of the `App`, and keeps all indices in range. -/
theorem inRange_run (h : run step (start prefs ix_enabled targets config now) as = some s) :
    run App.step (App.start targets config now) as = some s.app ∧ s.InRange := by
  refine run_induction (fun bs u => run App.step (App.start targets config now) bs = some u.app ∧ u.InRange)
    ⟨rfl, inRange_start prefs ix_enabled targets config now⟩ ?_ as s h
  rintro bs u a v - ⟨hrun, hu⟩ hstep
  obtain ⟨happ, hv⟩ := hu.step hstep
  exact ⟨run_snoc_eq_some.mpr ⟨u.app, hrun, happ⟩, hv⟩

/-- No hop is selected without a target when the unspecified address is never added. -/
theorem quiet_run (h : run step (start prefs ix_enabled targets config now) as = some s)
    (hadds : StepsMeet step (fun u a => u.app.AddsNoUnspecified a) (start prefs ix_enabled targets config now) as) :
    s.app.Quiet := by
  refine (run_induction_of (fun _ u => u.InRange ∧ u.app.Quiet)
    ⟨inRange_start prefs ix_enabled targets config now, App.quiet_start targets config now⟩ ?_ as s h hadds).2
  rintro - u a v - hadd ⟨hu, hquiet⟩ hstep
  obtain ⟨happ, hv⟩ := hu.step hstep
  exact ⟨hv, App.quiet_step hquiet hu.app hadd happ⟩

end

/-- Preferences with another theme than the first. -/
def samplePrefs : Prefs := ⟨fun name => name.length = 4, some .Wide, some ['k', 'é'], none⟩

/-- The unspecified address is added and dismissed, its engine sends a probe, and the details of its hop are opened. -/
def sampleUnspecified : List App.Action :=
  [.key 0 ⟨.Char 'o', false⟩, .key 0 ⟨.Char '0', false⟩, .key 0 ⟨.Enter, false⟩, .key 0 ⟨.Esc, false⟩,
    .manage (.ok App.unspecified) none SessionOp.sampleConfig 0, .trace App.unspecified (.sent 0 1),
    .key 0 ⟨.Down, false⟩, .key 0 ⟨.Enter, false⟩]

/-- The theme is changed, and the key of the settings is edited. -/
def sampleSettings : List App.Action :=
  [.key 0 ⟨.Char 't', false⟩, .key 0 ⟨.Char 's', false⟩, .key 0 ⟨.Down, false⟩, .key 0 ⟨.Tab, false⟩,
    .key 0 ⟨.Tab, false⟩, .key 0 ⟨.Backspace, false⟩, .key 0 ⟨.Char 'e', false⟩]

end RunApp

end Ttl
