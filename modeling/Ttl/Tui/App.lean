import Ttl.Probe.Extensions
import Ttl.Trace.Aggregates

/-!
# The terminal UI

The loop of `run_app` in live mode (`src/tui/app.rs`) with the target manager of `src/main.rs` beside it: keys, with the
overlays that take them first, the poll of an answer to an added target, the manager's handling of a request, and
whatever the engines and receivers do to a session. What a key changes in the theme, the display mode, the settings and
the status line is left out, and so are the keys that do nothing else.
-/

namespace Ttl

/-- `KeyCode`, as far as a handler looks at it. -/
inductive KeyCode where
  | Char (c : Char)
  | Enter
  | Esc
  | Tab
  | BackTab
  | Backspace
  | Delete
  | Left
  | Right
  | Up
  | Down
  | Other
deriving DecidableEq

/-- `KeyEvent`, of a key that is pressed. -/
structure KeyEvent where
  code : KeyCode
  /-- The modifiers contain CONTROL. -/
  control : Bool
deriving DecidableEq

/-- `AddedTarget`. -/
structure AddedTarget where
  ip : IpAddr
  name : List Char
  /-- It was being traced before. -/
  existed : Bool
deriving DecidableEq

/-- `AddTargetRequest`, with the number of its reply channel. -/
structure AddTargetRequest where
  host : List Char
  reply : ℕ
deriving DecidableEq

/-- `TargetInputState`. The input is ASCII, so that a byte is a character. -/
structure TargetInputState where
  input : List Char
  cursor : ℕ
  error : Option (List Char)
  resolving : Bool
  /-- The number of the reply channel. -/
  pending : Option ℕ
deriving DecidableEq

namespace TargetInputState

/-- `default`. -/
def default : TargetInputState := ⟨[], 0, none, false, none⟩

/-- `handle_char`: no control character, and ASCII alone. -/
def handleChar (s : TargetInputState) (c : Char) : TargetInputState :=
  if 0x20 ≤ c.toNat ∧ c.toNat < 0x7F then
    { s with input := s.input.insertIdx s.cursor c, cursor := s.cursor + 1 }
  else s

/-- `handle_backspace`. -/
def handleBackspace (s : TargetInputState) : TargetInputState :=
  if 0 < s.cursor then { s with cursor := s.cursor - 1, input := s.input.eraseIdx (s.cursor - 1) } else s

/-- `handle_delete`. -/
def handleDelete (s : TargetInputState) : TargetInputState :=
  if s.cursor < s.input.length then { s with input := s.input.eraseIdx s.cursor } else s

/-- `move_cursor_left`. -/
def moveCursorLeft (s : TargetInputState) : TargetInputState :=
  if 0 < s.cursor then { s with cursor := s.cursor - 1 } else s

/-- `move_cursor_right`. -/
def moveCursorRight (s : TargetInputState) : TargetInputState :=
  if s.cursor < s.input.length then { s with cursor := s.cursor + 1 } else s

/-- The request failed. -/
def fail (s : TargetInputState) (msg : List Char) : TargetInputState :=
  { s with pending := none, resolving := false, error := some msg }

end TargetInputState

/-- `UiState`. -/
structure UiState where
  /-- The selected hop. -/
  selected : Option ℕ
  /-- What is displayed of the selected session's pause. -/
  paused : Bool
  show_help : Bool
  show_hop_detail : Bool
  show_settings : Bool
  selected_target : ℕ
  show_target_list : Bool
  target_list_index : ℕ
  show_target_input : Bool
  target_input : TargetInputState
deriving DecidableEq

/-- `default`. -/
def UiState.default : UiState where
  selected := none
  paused := false
  show_help := false
  show_hop_detail := false
  show_settings := false
  selected_target := 0
  show_target_list := false
  target_list_index := 0
  show_target_input := false
  target_input := .default

/-- What `run_app` and the target manager hold. -/
structure App where
  ui : UiState
  /-- The targets in the order in which they are shown. -/
  targets : List IpAddr
  sessions : KeyMap IpAddr Session
  /-- Requests that the manager has not read. -/
  requests : List AddTargetRequest
  /-- What the manager has sent, by the number of the channel. -/
  replies : KeyMap ℕ (Except (List Char) AddedTarget)
  /-- The number of the next channel. -/
  channels : ℕ
  /-- The manager has ended. -/
  manager_closed : Bool
  cancelled : Bool

namespace App

/-- A live run of the targets. -/
def start (targets : List IpAddr) (config : IpAddr → Config) (now : ℕ) : App where
  ui := .default
  targets := targets
  sessions := targets.foldl (fun sessions t => sessions.insert t (Session.new t (config t) now)) ∅
  requests := []
  replies := ∅
  channels := 0
  manager_closed := false
  cancelled := false

/-- `IpAddr::V4(Ipv4Addr::UNSPECIFIED)`. -/
def unspecified : IpAddr := .V4 ⟨0, 0, 0, 0⟩

/-- A target by its index. -/
def target (s : App) (i : ℕ) : IpAddr := s.targets[i]?.getD unspecified

/-- `current_target`. -/
def currentTarget (s : App) : IpAddr := s.target s.ui.selected_target

/-- The pause of a target's session. -/
def pausedOf (s : App) (t : IpAddr) : Bool := ((s.sessions.lookup t).map Session.paused).getD false

/-- `hop_count`: the probed hops of the current session. -/
def hopCount (s : App) : ℕ :=
  ((s.sessions.lookup s.currentTarget).map fun session => session.hops.countP fun h => 0 < h.sent).getD 0

/-- The state with another `UiState`. -/
def withUi (s : App) (f : UiState → UiState) : App := { s with ui := f s.ui }

/-- `Ctrl+C`, as a key or as its character, and `q`. -/
def cancel (s : App) : App := { s with cancelled := true }

/-- A switch to a target, with its pause. -/
def switchTo (s : App) (new_idx : ℕ) : App :=
  let paused := s.pausedOf (s.target new_idx)
  s.withUi fun ui => { ui with selected_target := new_idx, selected := none, paused := paused }

/-- `Tab`. -/
def nextTarget (s : App) : App :=
  if 1 < s.targets.length then s.switchTo ((s.ui.selected_target + 1) % s.targets.length) else s

/-- `BackTab`. -/
def prevTarget (s : App) : App :=
  if 1 < s.targets.length then
    s.switchTo (if s.ui.selected_target = 0 then s.targets.length - 1 else s.ui.selected_target - 1)
  else s

/-- `p` and the space: the session, when there is one, gets what is displayed. -/
def togglePause (s : App) : App :=
  let paused := ! s.ui.paused
  { s with
    ui := { s.ui with paused := paused }
    sessions := KeyMap.modify s.sessions s.currentTarget fun session => { session with paused := paused } }

/-- `r`. -/
def resetCurrent (s : App) (now : ℕ) : App :=
  { s with sessions := KeyMap.modify s.sessions s.currentTarget fun session => session.resetStats now }

/-- `o`. -/
def openTargetInput (s : App) : App :=
  s.withUi fun ui => { ui with target_input := .default, show_target_input := true }

/-- `l`. -/
def openTargetList (s : App) : App :=
  if 1 < s.targets.length then
    s.withUi fun ui => { ui with target_list_index := ui.selected_target, show_target_list := true }
  else s

/-- `Up`. -/
def selectUp (s : App) : App :=
  let hop_count := s.hopCount
  if 0 < hop_count then
    s.withUi fun ui =>
      { ui with
        selected := some (match ui.selected with
          | some i => if 0 < i then i - 1 else hop_count - 1
          | none => hop_count - 1) }
  else s

/-- `Down`. -/
def selectDown (s : App) : App :=
  let hop_count := s.hopCount
  if 0 < hop_count then
    s.withUi fun ui =>
      { ui with
        selected := some (match ui.selected with
          | some i => if i < hop_count - 1 then i + 1 else 0
          | none => 0) }
  else s

/-- A key without an overlay. -/
def handleMainKey (s : App) (now : ℕ) (key : KeyEvent) : App :=
  match key.code with
  | .Char c =>
    if c = 'q' ∨ (c = 'c' ∧ key.control) ∨ c = '\x03' then s.cancel
    else if c = '?' ∨ c = 'h' then s.withUi fun ui => { ui with show_help := true }
    else if c = 'n' then s.nextTarget
    else if c = 'N' then s.prevTarget
    else if c = 'p' ∨ c = ' ' then s.togglePause
    else if c = 'r' then s.resetCurrent now
    else if c = 's' then s.withUi fun ui => { ui with show_settings := true }
    else if c = 'o' then s.openTargetInput
    else if c = 'l' then s.openTargetList
    else if c = 'k' then s.selectUp
    else if c = 'j' then s.selectDown
    else s
  | .Tab => s.nextTarget
  | .BackTab => s.prevTarget
  | .Up => s.selectUp
  | .Down => s.selectDown
  | .Enter => if s.ui.selected.isSome then s.withUi fun ui => { ui with show_hop_detail := true } else s
  | .Esc => s.withUi fun ui => { ui with selected := none }
  | _ => s

/-- `Enter` in the target input: a request, unless one is being resolved. -/
def submitTarget (s : App) : App :=
  let host := trimChars s.ui.target_input.input
  if host = [] ∨ s.ui.target_input.resolving then s
  else if s.manager_closed then
    s.withUi fun ui =>
      { ui with target_input := { ui.target_input with error := some "Target manager unavailable".toList } }
  else
    { s with
      ui := { s.ui with
        target_input := { s.ui.target_input with pending := some s.channels, resolving := true, error := none } }
      requests := s.requests ++ [⟨host, s.channels⟩]
      channels := s.channels + 1 }

/-- `handle_target_input_key`. -/
def handleTargetInputKey (s : App) (key : KeyEvent) : App :=
  let onInput (f : TargetInputState → TargetInputState) :=
    s.withUi fun ui => { ui with target_input := f ui.target_input }
  match key.code with
  | .Esc => s.withUi fun ui => { ui with target_input := .default, show_target_input := false }
  | .Enter => s.submitTarget
  | .Backspace => onInput TargetInputState.handleBackspace
  | .Delete => onInput TargetInputState.handleDelete
  | .Left => onInput TargetInputState.moveCursorLeft
  | .Right => onInput TargetInputState.moveCursorRight
  | .Char c => if key.control then s else onInput fun input => input.handleChar c
  | _ => s

/-- A key in the settings: all but `Esc` change the settings alone. -/
def handleSettingsKey (s : App) (key : KeyEvent) : App :=
  match key.code with
  | .Esc => s.withUi fun ui => { ui with show_settings := false }
  | _ => s

/-- A key in the details of a hop. -/
def handleHopDetailKey (s : App) (key : KeyEvent) : App :=
  let hop_count := s.hopCount
  let up := s.withUi fun ui => { ui with selected := ui.selected.map fun sel => sel - 1 }
  let down := s.withUi fun ui => { ui with selected := ui.selected.map fun sel => min (sel + 1) (hop_count - 1) }
  let close := s.withUi fun ui => { ui with show_hop_detail := false }
  match key.code with
  | .Up => up
  | .Down => down
  | .Esc => close
  | .Enter => close
  | .Char c =>
    if c = 'k' then up
    else if c = 'j' then down
    else if '1' ≤ c ∧ c ≤ '9' then
      s.withUi fun ui => { ui with selected := some (min (c.toNat - '1'.toNat) (hop_count - 1)) }
    else if c = 'q' then close
    else s
  | _ => s

/-- A switch from the target list, which it closes. -/
def chooseTarget (s : App) (new_target_idx : ℕ) : App :=
  (s.switchTo new_target_idx).withUi fun ui => { ui with show_target_list := false }

/-- A key in the target list. -/
def handleTargetListKey (s : App) (key : KeyEvent) : App :=
  let num_targets := s.targets.length
  let up := s.withUi fun ui =>
    { ui with
      target_list_index := if 0 < ui.target_list_index then ui.target_list_index - 1 else num_targets - 1 }
  let down := s.withUi fun ui => { ui with target_list_index := (ui.target_list_index + 1) % num_targets }
  match key.code with
  | .Esc => s.withUi fun ui => { ui with show_target_list := false }
  | .Enter => s.chooseTarget s.ui.target_list_index
  | .Up => up
  | .Down => down
  | .Char c =>
    if c = 'k' then up
    else if c = 'j' then down
    else if c.isDigit then
      let num := c.toNat - '0'.toNat
      if 1 ≤ num ∧ num ≤ num_targets then
        (s.chooseTarget (num - 1)).withUi fun ui => { ui with target_list_index := num - 1 }
      else s
    else s
  | _ => s

/-- A key: the overlays take it first. -/
def handleKey (s : App) (now : ℕ) (key : KeyEvent) : App :=
  if s.ui.show_help then s.withUi fun ui => { ui with show_help := false }
  else if s.ui.show_target_input then s.handleTargetInputKey key
  else if s.ui.show_settings then s.handleSettingsKey key
  else if s.ui.show_hop_detail then s.handleHopDetailKey key
  else if s.ui.show_target_list then s.handleTargetListKey key
  else s.handleMainKey now key

/-- The answer to the pending request, once it is there. -/
def answer (s : App) : Option (Except (List Char) AddedTarget) :=
  s.ui.target_input.pending.bind fun channel => s.replies.lookup channel

/-- The new target joins the rotation and becomes the selected one. -/
def selectAdded (s : App) (added : AddedTarget) : App :=
  let targets := if added.ip ∈ s.targets then s.targets else s.targets ++ [added.ip]
  let s := s.withUi fun ui => { ui with target_input := .default, show_target_input := false }
  match targets.idxOf? added.ip with
  | some idx => { s with targets := targets, ui := { s.ui with selected_target := idx, selected := none } }
  | none => { s with targets := targets }

/-- `poll_add_target_result`. -/
def pollAddTargetResult (s : App) : App :=
  match s.ui.target_input.pending with
  | none => s
  | some channel =>
    match s.replies.lookup channel with
    | some (.ok added) => s.selectAdded added
    | some (.error msg) => s.withUi fun ui => { ui with target_input := ui.target_input.fail msg }
    | none =>
      -- The channel is closed when the manager ends without an answer.
      if s.manager_closed then
        s.withUi fun ui => { ui with target_input := ui.target_input.fail "Target manager unavailable".toList }
      else s

/-- A request of `run_target_manager`, with what the resolver says and what the checks of the family refuse. -/
def manage (s : App) (request : AddTargetRequest) (resolved : Except (List Char) IpAddr)
    (refused : Option (List Char)) (config : Config) (now : ℕ) : App :=
  let send (s : App) (reply : Except (List Char) AddedTarget) :=
    { s with replies := s.replies.insert request.reply reply }
  match resolved with
  | .error e => send s (.error e)
  | .ok ip =>
    if (s.sessions.lookup ip).isSome then send s (.ok ⟨ip, request.host, true⟩)
    else
      match refused with
      | some e => send s (.error e)
      | none =>
        send { s with sessions := s.sessions.insert ip (Session.new ip config now) } (.ok ⟨ip, request.host, false⟩)

/-- What happens next. -/
inductive Action where
  | key (now : ℕ) (key : KeyEvent)
  | poll
  /-- The manager handles a request. -/
  | manage (resolved : Except (List Char) IpAddr) (refused : Option (List Char)) (config : Config) (now : ℕ)
  /-- The manager ends. -/
  | close
  /-- An engine or a receiver works on a session. -/
  | trace (target : IpAddr) (op : SessionOp)

/-- Only the UI pauses a session. -/
def isPause : SessionOp → Bool
  | .pause _ => true
  | _ => false

/-- One step, none after the cancellation. -/
def step (s : App) (a : Action) : Option App :=
  if s.cancelled then none
  else
    match a with
    | .key now key => some (s.handleKey now key)
    | .poll => some s.pollAddTargetResult
    | .manage resolved refused config now =>
      match s.requests with
      | [] => none
      | request :: requests =>
        if s.manager_closed then none
        else some ({ s with requests := requests }.manage request resolved refused config now)
    | .close => some { s with manager_closed := true, requests := [] }
    | .trace target op =>
      if isPause op then none
      else some { s with sessions := KeyMap.modify s.sessions target fun session => op.apply session }

end App

end Ttl
