import Ttl.Tui.Editor

/-!
# The settings

The state of the settings dialog (`src/tui/views/settings.rs`) with everything that a key does to it, and what of
`src/tui/theme.rs` and `src/prefs.rs` it reads. An operation that panics is `none`. `Settings.Valid` is what keeps it
from it: the theme is on the list, and the key is that of an editor on characters.
-/

namespace Ttl

/-- `%` of `usize`, which panics for zero. -/
def remUsize (a b : ℕ) : Option ℕ := if b = 0 then none else some (a % b)

/-- There is a remainder by a positive number. -/
theorem remUsize_eq {a b : ℕ} (h : 0 < b) : remUsize a b = some (a % b) := if_neg h.ne'

/-- `DisplayMode`. -/
inductive DisplayMode where
  | Auto
  | Compact
  | Wide
deriving DecidableEq

/-- `DisplayMode::next`. -/
def DisplayMode.next : DisplayMode → DisplayMode
  | .Auto => .Compact
  | .Compact => .Wide
  | .Wide => .Auto

/-- `Theme::list`. -/
def themeNames : List (List Char) :=
  ["default".toList, "kawaii".toList, "cyber".toList, "dracula".toList, "monochrome".toList, "matrix".toList,
    "nord".toList, "gruvbox".toList, "catppuccin".toList, "tokyo_night".toList, "solarized".toList]

/-- `Prefs`, with the theme as the test that `run_tui` makes of each name of the list. -/
structure Prefs where
  theme : List Char → Bool
  display_mode : Option DisplayMode
  peeringdb_api_key : Option (List Char)
  no_update_check : Option Bool

/-- `SettingsState`: the editor of the key, and the rest. -/
structure Settings extends SettingsState where
  /-- The theme, the display mode, PeeringDB when it is there, and the update check. -/
  selected_section : ℕ
  theme_scroll : ℕ
  theme_index : ℕ
  display_mode : DisplayMode
  update_check : Bool
deriving DecidableEq

namespace Settings

/-- `new`, with the bytes of the key. -/
def new (theme_index : ℕ) (display_mode : DisplayMode) (api_key : Option (List UInt8)) : Settings where
  api_key := api_key.getD []
  api_key_cursor := (api_key.getD []).length
  selected_section := 0
  theme_scroll := 0
  theme_index := theme_index
  display_mode := display_mode
  update_check := true

/-- `update_check_section`. -/
def updateCheckSection (ix_enabled : Bool) : ℕ := if ix_enabled then 3 else 2

/-- `move_up`. -/
def moveUp (s : Settings) : Option Settings :=
  if s.selected_section = 0 ∧ 0 < s.theme_index then do
    let theme_index ← subUsize s.theme_index 1
    return { s with
      theme_index := theme_index
      theme_scroll := if theme_index < s.theme_scroll then theme_index else s.theme_scroll }
  else some s

/-- `move_down`, over a list that shows five themes at once. -/
def moveDown (s : Settings) (theme_count : ℕ) : Option Settings :=
  if s.selected_section = 0 ∧ 0 < theme_count ∧ s.theme_index + 1 < theme_count then
    let theme_index := s.theme_index + 1
    let visible_themes := 5
    if s.theme_scroll + visible_themes ≤ theme_index then do
      let above ← subUsize theme_index visible_themes
      return { s with theme_index := theme_index, theme_scroll := above + 1 }
    else some { s with theme_index := theme_index }
  else some s

/-- `next_section`. -/
def nextSection (s : Settings) (ix_enabled : Bool) : Option Settings := do
  let section_index ← remUsize (s.selected_section + 1) (if ix_enabled then 4 else 3)
  return { s with selected_section := section_index }

/-- `select`. -/
def select (s : Settings) : Settings :=
  if s.selected_section = 1 then { s with display_mode := s.display_mode.next } else s

/-- An operation on the key. -/
def editKey (s : Settings) (op : Edit Char) : Option Settings :=
  (s.toSettingsState.edit op).map fun editor => { s with toSettingsState := editor }

/-- The theme is one of the list, and the key with its cursor is a text. -/
structure Valid (s : Settings) : Prop where
  theme : s.theme_index < themeNames.length
  key : ∃ z : Zipper Char, s.toSettingsState = SettingsState.encode z

variable {s : Settings}

/-- New settings are valid with a theme of the list and a key that is a text. -/
theorem Valid.new {theme_index : ℕ} (htheme : theme_index < themeNames.length) (display_mode : DisplayMode)
    (text : Option (List Char)) : (Settings.new theme_index display_mode (text.map utf8)).Valid := by
  refine ⟨htheme, .atEnd (text.getD []), ?_⟩
  have hkey : (text.map utf8).getD [] = utf8 (text.getD []) := by
    cases text <;> rfl
  have htext : (Zipper.atEnd (text.getD [])).toList = text.getD [] := List.append_nil _
  rw [SettingsState.encode, htext, Zipper.atEnd, ← hkey]
  rfl

/-- The settings are opened anew with the key that they had. -/
theorem Valid.reopen (h : s.Valid) {theme_index : ℕ} (htheme : theme_index < themeNames.length)
    (display_mode : DisplayMode) :
    (Settings.new theme_index display_mode (if s.api_key.isEmpty then none else some s.api_key)).Valid := by
  obtain ⟨z, hz⟩ := h.key
  have hkey : s.api_key = utf8 z.toList := congrArg SettingsState.api_key hz
  split_ifs with hempty
  · exact .new htheme display_mode none
  · rw [hkey]
    exact .new htheme display_mode (some z.toList)

/-- Other fields than the theme and the key do not matter. -/
theorem Valid.congr (h : s.Valid) {t : Settings} (htheme : t.theme_index < themeNames.length)
    (hkey : t.toSettingsState = s.toSettingsState) : t.Valid :=
  ⟨htheme, hkey ▸ h.key⟩

/-- The theme goes up by one, and not above the first. -/
theorem Valid.moveUp (h : s.Valid) : ∃ t, s.moveUp = some t ∧ t.Valid := by
  unfold Settings.moveUp
  split_ifs with hup
  · have htheme : s.theme_index - 1 < themeNames.length := (Nat.sub_le _ _).trans_lt h.theme
    rw [subUsize_eq hup.2]
    exact ⟨_, rfl, h.congr htheme rfl⟩
  · exact ⟨s, rfl, h⟩

/-- The theme goes down by one, and not below the last. -/
theorem Valid.moveDown (h : s.Valid) : ∃ t, s.moveDown themeNames.length = some t ∧ t.Valid := by
  unfold Settings.moveDown
  split_ifs with hdown
  · dsimp only
    split_ifs with hscroll
    · have hvisible : 5 ≤ s.theme_index + 1 := (Nat.le_add_left 5 s.theme_scroll).trans hscroll
      rw [subUsize_eq hvisible]
      exact ⟨_, rfl, h.congr hdown.2.2 rfl⟩
    · exact ⟨_, rfl, h.congr hdown.2.2 rfl⟩
  · exact ⟨s, rfl, h⟩

/-- There is a next section. -/
theorem Valid.nextSection (h : s.Valid) (ix_enabled : Bool) : ∃ t, s.nextSection ix_enabled = some t ∧ t.Valid := by
  have hpos : 0 < if ix_enabled then 4 else 3 := by
    split <;> exact Nat.succ_pos _
  rw [Settings.nextSection, remUsize_eq hpos]
  exact ⟨_, rfl, h.congr h.theme rfl⟩

/-- The display mode alone is selected. -/
theorem Valid.select (h : s.Valid) : s.select.Valid := by
  unfold Settings.select
  split_ifs
  · exact h.congr h.theme rfl
  · exact h

/-- An operation on the key is one of the editor on characters. -/
theorem Valid.editKey (h : s.Valid) (op : Edit Char) : ∃ t, s.editKey op = some t ∧ t.Valid := by
  obtain ⟨z, hz⟩ := h.key
  rw [Settings.editKey, hz, SettingsState.edit_encode]
  exact ⟨_, rfl, h.theme, z.edit op, rfl⟩

end Settings

end Ttl
