import Ttl.Lookup.Cache
import Ttl.Tui.Editor

/-!
# The name of an exported file

`sanitize_filename` (`src/export/json.rs`) makes a part of a file's name of whatever the target was called. It cuts the
name at a character boundary and replaces, trims and prefixes characters. What `truncate` does off a boundary, it
panics, is `none`. `sanitizeFilename_spec` says that every name comes out as one that is safe on every platform, and
that a safe one comes out as it is.
-/

namespace Ttl

namespace FileName

/-- The characters that separate or steer paths. -/
def isUnsafe (c : Char) : Bool :=
  isControl c || ['/', '\x5C', ':', '*', '?', '\x22', '<', '>', '|'].contains c

/-- The names of devices. -/
def reserved : List (List Char) :=
  ["CON", "PRN", "AUX", "NUL", "COM1", "COM2", "COM3", "COM4", "COM5", "COM6", "COM7", "COM8", "COM9", "LPT1", "LPT2",
    "LPT3", "LPT4", "LPT5", "LPT6", "LPT7", "LPT8", "LPT9"].map String.toList

/-- `MAX_TARGET_BYTES`. -/
def maxTargetBytes : ℕ := 200

/-- `String::truncate`. -/
def truncate (s : List Char) (new_len : ℕ) : Option (List Char) :=
  if new_len ≤ (utf8 s).length then
    if isCharBoundary (utf8 s) new_len then some (fromUtf8Lossy new_len ((utf8 s).take new_len)) else none
  else some s

/-- A blank or a point. -/
def isTrimmed (c : Char) : Bool := c = ' ' || c = '.'

/-- `trim_end_matches([' ', '.'])`. -/
def trimEnd (s : List Char) : List Char := s.rdropWhile isTrimmed

/-- The upper case of the part before the first point. -/
def baseName (s : List Char) : List Char := (s.takeWhile (· ≠ '.')).map Char.toUpper

/-- The cap on the length, at the next boundary below it. -/
def shorten (s : List Char) : Option (List Char) :=
  if maxTargetBytes < (utf8 s).length then truncate s (SettingsState.prevBoundary (utf8 s) maxTargetBytes) else some s

/-- `sanitize_filename`. -/
def sanitizeFilename (s : List Char) : Option (List Char) := do
  let sanitized ← shorten (s.map fun c => if isUnsafe c then '_' else c)
  let sanitized ← truncate sanitized (utf8 (trimEnd sanitized)).length
  if sanitized = [] then some ['_']
  else if reserved.contains (baseName sanitized) then some ('_' :: sanitized)
  else some sanitized

/-- A part of a file's name that is safe on every platform. -/
structure Safe (name : List Char) : Prop where
  nonempty : name ≠ []
  characters : ∀ c ∈ name, isUnsafe c = false
  last : ∀ c, name.getLast? = some c → isTrimmed c = false
  device : reserved.contains (baseName name) = false

/-! ## Cuts -/

/-- A text is cut after a character. -/
theorem truncate_append (pre post : List Char) : truncate (pre ++ post) (utf8 pre).length = some pre := by
  have hle : (utf8 pre).length ≤ (utf8 (pre ++ post)).length := by
    rw [utf8_append, List.length_append]
    exact Nat.le_add_right _ _
  have hboundary := isCharBoundary_utf8 (utf8 pre) post
  rw [truncate, if_pos hle, utf8_append, if_pos hboundary, List.take_left, fromUtf8Lossy_utf8 pre le_rfl]

/-- The search for a boundary finds the end of a character, and does not pass over another one. -/
theorem exists_cut (before after : List Char) {n : ℕ} (hbefore : (utf8 before).length ≤ n)
    (hn : n ≤ (utf8 (before ++ after)).length) : ∃ pre post, before ++ after = pre ++ post ∧
      SettingsState.prevBoundary (utf8 (before ++ after)) n = (utf8 pre).length ∧ (utf8 pre).length ≤ n := by
  induction after generalizing before with
  | nil =>
    rw [List.append_nil] at hn ⊢
    obtain rfl : (utf8 before).length = n := le_antisymm hbefore hn
    refine ⟨before, [], (List.append_nil before).symm, ?_, le_rfl⟩
    have hend := isCharBoundary_utf8 (utf8 before) []
    rw [← utf8_append, List.append_nil] at hend
    cases hlen : (utf8 before).length with
    | zero => rfl
    | succ k => rw [SettingsState.prevBoundary, ← hlen, if_pos hend]
  | cons c after ih =>
    rcases lt_or_ge n ((utf8 before).length + (String.utf8EncodeChar c).length) with hlt | hge
    · refine ⟨before, c :: after, rfl, ?_, hbefore⟩
      have hk : n - (utf8 before).length < (String.utf8EncodeChar c).length := by omega
      have hfound := SettingsState.prevBoundary_char (utf8 before) c after hk
      rwa [Nat.add_sub_cancel' hbefore, ← utf8_append] at hfound
    · have hcut := ih (before ++ [c])
      rw [List.append_assoc, List.singleton_append] at hcut
      refine hcut ?_ hn
      rw [SettingsState.length_utf8_concat]
      exact hge

/-- What is left of a name that is too long. -/
theorem shorten_eq (s : List Char) : ∃ pre post, s = pre ++ post ∧ (utf8 pre).length ≤ maxTargetBytes ∧
    ((utf8 s).length ≤ maxTargetBytes → post = []) ∧ shorten s = some pre := by
  unfold shorten
  split_ifs with hlong
  · obtain ⟨pre, post, hs, hfound, hle⟩ := exists_cut [] s (Nat.zero_le _) hlong.le
    rw [List.nil_append] at hs hfound
    refine ⟨pre, post, hs, hle, fun hshort => absurd hlong (Nat.not_lt.mpr hshort), ?_⟩
    rw [hfound, hs]
    exact truncate_append pre post
  · exact ⟨s, [], (List.append_nil s).symm, Nat.not_lt.mp hlong, fun _ => rfl, rfl⟩

/-- The blanks and points at the end are cut off. -/
theorem truncate_trimEnd (s : List Char) : truncate s (utf8 (trimEnd s)).length = some (trimEnd s) := by
  obtain ⟨post, hpost⟩ := List.rdropWhile_prefix isTrimmed s
  have hcut := truncate_append (trimEnd s) post
  rw [trimEnd, hpost] at hcut
  exact hcut

/-! ## Safe names -/

/-- The character put in the place of an unsafe one is safe. -/
theorem isUnsafe_underscore : isUnsafe '_' = false := by decide

/-- No unsafe character is left. -/
theorem isUnsafe_of_mem_map {s : List Char} {c : Char} (h : c ∈ s.map fun c => if isUnsafe c then '_' else c) :
    isUnsafe c = false := by
  obtain ⟨d, -, rfl⟩ := List.mem_map.mp h
  split_ifs with hd
  · exact isUnsafe_underscore
  · exact Bool.eq_false_of_not_eq_true hd

/-- A text without unsafe characters stays as it is. -/
theorem map_eq_self {s : List Char} (h : ∀ c ∈ s, isUnsafe c = false) :
    (s.map fun c => if isUnsafe c then '_' else c) = s := by
  rw [List.map_congr_left (g := id) fun c hc => ?_, List.map_id]
  rw [h c hc, if_neg Bool.false_ne_true]
  rfl

/-- Trimming the end leaves a beginning. -/
theorem prefix_trimEnd (s : List Char) : trimEnd s <+: s := List.rdropWhile_prefix isTrimmed s

/-- What is left of a name does not end in what is trimmed. -/
theorem last_trimEnd {s : List Char} {c : Char} (h : (trimEnd s).getLast? = some c) : isTrimmed c = false := by
  have hne : trimEnd s ≠ [] := by
    intro hnil
    rw [hnil] at h
    cases h
  have hlast := List.rdropWhile_last_not isTrimmed s hne
  rw [List.getLast?_eq_some_getLast hne, Option.some.injEq] at h
  rw [← h]
  exact Bool.eq_false_of_not_eq_true hlast

/-- Nothing is trimmed when the last character is none of those that are. -/
theorem trimEnd_eq_self {s : List Char} (h : ∀ c, s.getLast? = some c → isTrimmed c = false) : trimEnd s = s := by
  refine List.rdropWhile_eq_self_iff.mpr fun hne hlast => ?_
  have hfalse := h _ (List.getLast?_eq_some_getLast hne)
  rw [hlast] at hfalse
  cases hfalse

/-- A device's name with an underscore before it is none. -/
theorem not_reserved_underscore (s : List Char) : reserved.contains (baseName ('_' :: s)) = false := by
  have hbase : (baseName ('_' :: s)).head? = some '_' := rfl
  have hnone : (reserved.all fun name => name.head? ≠ some '_') = true := by decide
  rw [Bool.eq_false_iff, Ne, List.contains_iff_mem]
  intro hmem
  have hne := List.all_eq_true.mp hnone _ hmem
  rw [hbase] at hne
  simp at hne

/-- A beginning of a text has no more bytes. -/
theorem length_utf8_le {s t : List Char} (h : s <+: t) : (utf8 s).length ≤ (utf8 t).length := by
  obtain ⟨rest, rfl⟩ := h
  rw [utf8_append, List.length_append]
  exact Nat.le_add_right _ _

/-- **Every name comes out safe, and a safe one that fits comes out as it is.** The cut is never within a character. -/
theorem sanitizeFilename_spec (s : List Char) : ∃ name, sanitizeFilename s = some name ∧ Safe name ∧
    (utf8 name).length ≤ maxTargetBytes + 1 ∧ (Safe s → (utf8 s).length ≤ maxTargetBytes → name = s) := by
  obtain ⟨pre, post, hs, hlength, hshort, hcut⟩ := shorten_eq (s.map fun c => if isUnsafe c then '_' else c)
  have hpre : pre <+: s.map fun c => if isUnsafe c then '_' else c := ⟨post, hs.symm⟩
  have hchars : ∀ c ∈ trimEnd pre, isUnsafe c = false := fun c hc =>
    isUnsafe_of_mem_map (hpre.subset ((prefix_trimEnd pre).subset hc))
  have htrimmed : (utf8 (trimEnd pre)).length ≤ maxTargetBytes := (length_utf8_le (prefix_trimEnd pre)).trans hlength
  -- A safe name is left alone by all steps up to here.
  have hsame (hsafe : Safe s) (hfits : (utf8 s).length ≤ maxTargetBytes) : trimEnd pre = s := by
    have hmap := map_eq_self hsafe.characters
    rw [hmap] at hs hshort
    rw [hshort hfits, List.append_nil] at hs
    rw [← hs]
    exact trimEnd_eq_self hsafe.last
  have heq : sanitizeFilename s =
      if trimEnd pre = [] then some ['_']
      else if reserved.contains (baseName (trimEnd pre)) then some ('_' :: trimEnd pre)
      else some (trimEnd pre) := by
    rw [sanitizeFilename, hcut, Option.bind_eq_bind, Option.bind_some, truncate_trimEnd]
    rfl
  rw [heq]
  split_ifs with hnil hreserved
  · refine ⟨['_'], rfl, ⟨List.cons_ne_nil _ _, ?_, ?_, not_reserved_underscore []⟩, by decide, fun hsafe hfits => ?_⟩
    · intro c hc
      rw [List.mem_singleton.mp hc]
      exact isUnsafe_underscore
    · intro c hc
      cases hc
      decide
    · exact absurd ((hsame hsafe hfits).symm.trans hnil) hsafe.nonempty
  · refine ⟨'_' :: trimEnd pre, rfl, ⟨List.cons_ne_nil _ _, ?_, ?_, not_reserved_underscore _⟩, ?_, fun hsafe hfits => ?_⟩
    · intro c hc
      rcases List.mem_cons.mp hc with rfl | hc
      · exact isUnsafe_underscore
      · exact hchars c hc
    · intro c hc
      rw [List.getLast?_cons_of_ne_nil hnil] at hc
      exact last_trimEnd hc
    · rw [utf8_cons, List.length_append, Nat.add_comm]
      exact Nat.add_le_add htrimmed (by decide)
    · have hdevice := hsafe.device
      rw [← hsame hsafe hfits, hreserved] at hdevice
      cases hdevice
  · exact ⟨trimEnd pre, rfl, ⟨hnil, hchars, fun c hc => last_trimEnd hc, Bool.eq_false_of_not_eq_true hreserved⟩,
      htrimmed.trans (Nat.le_succ _), hsame⟩

end FileName

end Ttl
