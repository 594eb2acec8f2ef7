import Ttl.Tui.App
import Ttl.Tui.Settings

/-!
# The keys

The key handlers of `run_app` (`src/tui/app.rs`) index the targets and the themes, insert and remove characters of two
texts at their cursors, and subtract and take remainders, each of which panics on a wrong operand. `RunApp` is the state
of `App` with what else the keys change, and its handlers make all of these operations, with `none` for a panic.
-/

namespace Ttl

/-! ## The handlers of the dialogs, with their panics -/

namespace TargetInputState

/-- `handle_char`, with `String::insert`. -/
def handleCharChecked (s : TargetInputState) (c : Char) : Option TargetInputState :=
  if 0x20 ≤ c.toNat ∧ c.toNat < 0x7F then
    (insertChar (utf8 s.input) s.cursor c).map fun _ => s.handleChar c
  else some s

/-- `handle_backspace`, with the subtraction and `String::remove`. -/
def handleBackspaceChecked (s : TargetInputState) : Option TargetInputState :=
  if 0 < s.cursor then do
    let cursor ← subUsize s.cursor 1
    (removeChar (utf8 s.input) cursor).map fun _ => s.handleBackspace
  else some s

/-- `handle_delete`, with `String::remove`. -/
def handleDeleteChecked (s : TargetInputState) : Option TargetInputState :=
  if s.cursor < s.input.length then (removeChar (utf8 s.input) s.cursor).map fun _ => s.handleDelete else some s

/-- `move_cursor_left`, with the subtraction. -/
def moveCursorLeftChecked (s : TargetInputState) : Option TargetInputState :=
  if 0 < s.cursor then (subUsize s.cursor 1).map fun _ => s.moveCursorLeft else some s

end TargetInputState

namespace App

/-- `targets[new_idx]` before a switch. -/
def switchToChecked (s : App) (new_idx : ℕ) : Option App :=
  s.targets[new_idx]?.map fun _ => s.switchTo new_idx

/-- `Tab`. -/
def nextTargetChecked (s : App) : Option App :=
  if 1 < s.targets.length then do
    let new_idx ← remUsize (s.ui.selected_target + 1) s.targets.length
    s.switchToChecked new_idx
  else some s

/-- `BackTab`. -/
def prevTargetChecked (s : App) : Option App :=
  if 1 < s.targets.length then do
    let new_idx ←
      if s.ui.selected_target = 0 then subUsize s.targets.length 1 else subUsize s.ui.selected_target 1
    s.switchToChecked new_idx
  else some s

/-- `Up`: the hop before the selected one, or the last. -/
def selectUpChecked (s : App) : Option App :=
  let hop_count := s.hopCount
  if 0 < hop_count then do
    let selected ←
      match s.ui.selected with
      | some i => if 0 < i then subUsize i 1 else subUsize hop_count 1
      | none => subUsize hop_count 1
    return s.withUi fun ui => { ui with selected := some selected }
  else some s

/-- `Down`: the hop after the selected one, or the first. -/
def selectDownChecked (s : App) : Option App :=
  let hop_count := s.hopCount
  if 0 < hop_count then do
    let selected ←
      match s.ui.selected with
      | some i => (subUsize hop_count 1).map fun last => if i < last then i + 1 else 0
      | none => some 0
    return s.withUi fun ui => { ui with selected := some selected }
  else some s

/-- A key without an overlay. The other arms read no element and subtract nothing; `RunApp` has that of the theme. -/
def handleMainKeyChecked (s : App) (now : ℕ) (key : KeyEvent) : Option App :=
  match key.code with
  | .Char 'n' => s.nextTargetChecked
  | .Char 'N' => s.prevTargetChecked
  | .Char 'k' => s.selectUpChecked
  | .Char 'j' => s.selectDownChecked
  | .Tab => s.nextTargetChecked
  | .BackTab => s.prevTargetChecked
  | .Up => s.selectUpChecked
  | .Down => s.selectDownChecked
  | _ => some (s.handleMainKey now key)

/-- A key in the target input. -/
def handleTargetInputKeyChecked (s : App) (key : KeyEvent) : Option App :=
  let onInput (f : TargetInputState → Option TargetInputState) :=
    (f s.ui.target_input).map fun input => s.withUi fun ui => { ui with target_input := input }
  match key.code with
  | .Backspace => onInput TargetInputState.handleBackspaceChecked
  | .Delete => onInput TargetInputState.handleDeleteChecked
  | .Left => onInput TargetInputState.moveCursorLeftChecked
  | .Char c => if key.control then some s else onInput fun input => input.handleCharChecked c
  | _ => some (s.handleTargetInputKey key)

/-- A key in the details of a hop, whose target is looked up first. The other subtractions saturate. -/
def handleHopDetailKeyChecked (s : App) (key : KeyEvent) : Option App := do
  let _current_target ← s.targets[s.ui.selected_target]?
  match key.code with
  | .Char c =>
    if '1' ≤ c ∧ c ≤ '9' then (subUsize c.toNat '1'.toNat).map fun _ => s.handleHopDetailKey key
    else some (s.handleHopDetailKey key)
  | _ => some (s.handleHopDetailKey key)

/-- `targets[new_target_idx]` before a choice from the list. -/
def chooseTargetChecked (s : App) (new_target_idx : ℕ) : Option App :=
  s.targets[new_target_idx]?.map fun _ => s.chooseTarget new_target_idx

/-- `Up` in the target list. -/
def listUpChecked (s : App) : Option App := do
  let target_list_index ←
    if 0 < s.ui.target_list_index then subUsize s.ui.target_list_index 1 else subUsize s.targets.length 1
  return s.withUi fun ui => { ui with target_list_index := target_list_index }

/-- `Down` in the target list. -/
def listDownChecked (s : App) : Option App := do
  let target_list_index ← remUsize (s.ui.target_list_index + 1) s.targets.length
  return s.withUi fun ui => { ui with target_list_index := target_list_index }

/-- A digit in the target list, whose value is unwrapped. -/
def listDigitChecked (s : App) (c : Char) : Option App := do
  let num ← subUsize c.toNat '0'.toNat
  if 1 ≤ num ∧ num ≤ s.targets.length then
    let new_target_idx ← subUsize num 1
    let t ← s.chooseTargetChecked new_target_idx
    return t.withUi fun ui => { ui with target_list_index := new_target_idx }
  else some s

/-- A key in the target list. -/
def handleTargetListKeyChecked (s : App) (key : KeyEvent) : Option App :=
  match key.code with
  | .Esc => some (s.handleTargetListKey key)
  | .Enter => s.chooseTargetChecked s.ui.target_list_index
  | .Up => s.listUpChecked
  | .Down => s.listDownChecked
  | .Char c =>
    if c = 'k' then s.listUpChecked
    else if c = 'j' then s.listDownChecked
    else if c.isDigit then s.listDigitChecked c
    else some s
  | _ => some s

/-- The details of a hop are shown, over which nothing else takes the key, and there is no target. -/
def DetailsOfNothing (s : App) : Prop :=
  s.targets = [] ∧ s.ui.show_hop_detail = true ∧ s.ui.show_help = false ∧ s.ui.show_target_input = false ∧
    s.ui.show_settings = false

instance (s : App) : Decidable s.DetailsOfNothing := inferInstanceAs (Decidable (_ ∧ _))

end App

/-! ## The loop with its theme and settings -/

/-- The state of `run_app` with what its keys change beside that of `App`; the status line is left out. -/
structure RunApp where
  app : App
  theme_index : ℕ
  display_mode : DisplayMode
  settings : Settings
  /-- The exchange points are looked up. -/
  ix_enabled : Bool

namespace RunApp

/-- A live run of the targets, as `run_tui` starts it. -/
def start (prefs : Prefs) (ix_enabled : Bool) (targets : List IpAddr) (config : IpAddr → Config) (now : ℕ) : RunApp :=
  let initial_index := (themeNames.findIdx? prefs.theme).getD 0
  let display_mode := prefs.display_mode.getD .Auto
  { app := App.start targets config now
    theme_index := initial_index
    display_mode := display_mode
    settings := { Settings.new initial_index display_mode (prefs.peeringdb_api_key.map utf8) with
      update_check := ! prefs.no_update_check.getD false }
    ix_enabled := ix_enabled }

/-- The state with another `App`. -/
def withApp (s : RunApp) (app : App) : RunApp := { s with app := app }

/-- The state with other settings. -/
def withSettings (s : RunApp) (settings : Settings) : RunApp := { s with settings := settings }

/-- `Esc` in the settings: they are closed and applied. -/
def closeSettings (s : RunApp) : RunApp :=
  { s with
    theme_index := s.settings.theme_index
    display_mode := s.settings.display_mode
    app := s.app.withUi fun ui => { ui with show_settings := false } }

/-- The theme of the settings is shown at once. -/
def previewTheme (s : RunApp) (settings : Settings) : RunApp :=
  { s with settings := settings, theme_index := settings.theme_index }

/-- `Enter` and the space in the settings. -/
def choose (s : RunApp) : RunApp :=
  if s.settings.selected_section = Settings.updateCheckSection s.ix_enabled then
    s.withSettings { s.settings with update_check := ! s.settings.update_check }
  else { s with settings := s.settings.select, display_mode := s.settings.select.display_mode }

/-- A key in the section of the PeeringDB key. `Ctrl+R` refreshes the cache of the exchange points. -/
def handleKeySection (s : RunApp) (key : KeyEvent) : Option RunApp :=
  let edit (op : Edit Char) := (s.settings.editKey op).map s.withSettings
  match key.code with
  | .Esc => some s.closeSettings
  | .Tab => (s.settings.nextSection s.ix_enabled).map s.withSettings
  | .Backspace => edit .backspace
  | .Delete => edit .delete
  | .Left => edit .left
  | .Right => edit .right
  | .Char c => if c = 'r' ∧ key.control then some s else edit (.insert c)
  | _ => some s

/-- A key in another section of the settings. -/
def handleThemeSection (s : RunApp) (key : KeyEvent) : Option RunApp :=
  let up := s.settings.moveUp.map s.previewTheme
  let down := (s.settings.moveDown themeNames.length).map s.previewTheme
  match key.code with
  | .Esc => some s.closeSettings
  | .Up => up
  | .Down => down
  | .Tab => (s.settings.nextSection s.ix_enabled).map s.withSettings
  | .Enter => some s.choose
  | .Char c => if c = 'k' then up else if c = 'j' then down else if c = ' ' then some s.choose else some s
  | _ => some s

/-- `t`: the next theme, whose name is shown. -/
def nextTheme (s : RunApp) : Option RunApp := do
  let theme_index ← remUsize (s.theme_index + 1) themeNames.length
  let _new_theme ← themeNames[theme_index]?
  return { s with theme_index := theme_index, settings := { s.settings with theme_index := theme_index } }

/-- `w`. -/
def nextDisplayMode (s : RunApp) : RunApp :=
  { s with display_mode := s.display_mode.next, settings := { s.settings with display_mode := s.display_mode.next } }

/-- `s`: the settings, with the key and the update check as they were. -/
def openSettings (s : RunApp) : RunApp :=
  let current_api_key := if s.settings.api_key.isEmpty then none else some s.settings.api_key
  { s with
    settings := { Settings.new s.theme_index s.display_mode current_api_key with
      update_check := s.settings.update_check }
    app := s.app.withUi fun ui => { ui with show_settings := true } }

/-- A key without an overlay. -/
def handleMainKey (s : RunApp) (now : ℕ) (key : KeyEvent) : Option RunApp :=
  match key.code with
  | .Char 't' => s.nextTheme
  | .Char 'w' => some s.nextDisplayMode
  | .Char 's' => some s.openSettings
  | _ => (s.app.handleMainKeyChecked now key).map s.withApp

/-- A key: the overlays take it first. -/
def handleKey (s : RunApp) (now : ℕ) (key : KeyEvent) : Option RunApp :=
  if s.app.ui.show_help then some (s.withApp (s.app.withUi fun ui => { ui with show_help := false }))
  else if s.app.ui.show_target_input then (s.app.handleTargetInputKeyChecked key).map s.withApp
  else if s.app.ui.show_settings then
    if s.settings.selected_section = 2 ∧ s.ix_enabled then s.handleKeySection key else s.handleThemeSection key
  else if s.app.ui.show_hop_detail then (s.app.handleHopDetailKeyChecked key).map s.withApp
  else if s.app.ui.show_target_list then (s.app.handleTargetListKeyChecked key).map s.withApp
  else s.handleMainKey now key

/-- One step: a key, which may panic, or what happens beside the keys. -/
def step (s : RunApp) : App.Action → Option RunApp
  | .key now key => if s.app.cancelled then none else s.handleKey now key
  | a => (s.app.step a).map s.withApp

end RunApp

end Ttl
