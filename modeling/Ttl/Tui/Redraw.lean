import Ttl.Lib.Runs
import Ttl.Tui.App
import Ttl.Tui.ReplayState
import Ttl.Tui.Settings

/-!
# Drawing only what changed

`run_app` (`src/tui/app.rs`) draws a frame only when its fingerprint is not that of the last one. Of a session the
fingerprint holds a generation alone, which every write guard of a `SessionLock` (`src/state/session.rs`) counts up when
it is released, and which starts over when a seek back in a replay replaces the session. The model is the loop with the
tasks that write to the sessions beside it, between any two of its steps. `screen_current` says that what is skipped
would not have changed the screen.
-/

namespace Ttl

/-- `SessionLock`: a session and its `render_generation`. -/
structure SessionLock where
  session : Session
  render_generation : UInt64

namespace SessionLock

/-- `SessionLock::new` of a new session. -/
def new (session : Session) : SessionLock := ⟨session, 0⟩

/-- What a write guard leaves when it is released. -/
def write (f : Session → Session) (l : SessionLock) : SessionLock := ⟨f l.session, l.render_generation + 1⟩

/-- What it leaves when a new session was put in the place of the old one, whose generation is lost. -/
def replace (f : Session → Session) (l : SessionLock) : SessionLock := ⟨f l.session, 0 + 1⟩

/-- `snapshot_for_render`: the session without its events. -/
def snapshotForRender (l : SessionLock) : Session := { l.session with events := [] }

end SessionLock

/-- `CacheStatus`. -/
structure CacheStatus where
  loaded : Bool
  prefix_count : ℕ
  fetched_at : Option ℕ
  expired : Bool
  refreshing : Bool
deriving DecidableEq

/-- `TargetInfo`. -/
structure TargetInfo where
  ip : IpAddr
  hostname : List Char
  hops_str : List Char
  loss_str : List Char
deriving DecidableEq

namespace Redraw

/-- `SettingsState`. -/
structure SettingsState where
  selected_section : ℕ
  theme_scroll : ℕ
  theme_index : ℕ
  display_mode : DisplayMode
  api_key : List Char
  api_key_cursor : ℕ
  update_check : Bool
deriving DecidableEq

/-- `UiState`, with all of its fields. -/
structure UiState (F : Type) extends Ttl.UiState where
  settings : SettingsState
  /-- The message, and when it was set. -/
  status_message : Option (List Char × ℕ)
  theme_index : ℕ
  display_mode : DisplayMode
  update_available : Option (List Char)
  /-- The receiver is there. -/
  update_rx : Bool
  replay_state : Option (ReplayState F)
  target_list_cache : Option (List TargetInfo)
  target_list_tick : ℕ

/-- `RenderFingerprint`. -/
structure RenderFingerprint (F : Type) where
  session_generation : Option UInt64
  selected : Option ℕ
  paused : Bool
  show_help : Bool
  show_hop_detail : Bool
  show_settings : Bool
  show_target_list : Bool
  show_target_input : Bool
  theme_index : ℕ
  display_mode : DisplayMode
  selected_target : ℕ
  num_targets : ℕ
  target_list_index : ℕ
  status : Option (List Char)
  update_available : Option (List Char)
  replay : Option (Bool × Bool × ℕ × ℕ × F)
  target_input : List Char × ℕ × Option (List Char) × Bool
  /-- All fields of the settings. -/
  settings : SettingsState
  ix_cache : Option (Bool × ℕ × Option ℕ × Bool × Bool)
  target_list_rows : Option (List (IpAddr × List Char × List Char × List Char))
deriving DecidableEq

variable {F : Type}

/-- `render_fingerprint`, at the time `now`. The bits of the speed are the speed itself. -/
def renderFingerprint (arith : ReplayArith F) (now : ℕ) (ui : UiState F) (num_targets : ℕ)
    (session_generation : Option UInt64) (cache_status : Option CacheStatus) : RenderFingerprint F where
  session_generation := session_generation
  selected := ui.selected
  paused := ui.paused
  show_help := ui.show_help
  show_hop_detail := ui.show_hop_detail
  show_settings := ui.show_settings
  show_target_list := ui.show_target_list
  show_target_input := ui.show_target_input
  theme_index := ui.theme_index
  display_mode := ui.display_mode
  selected_target := ui.selected_target
  num_targets := num_targets
  target_list_index := ui.target_list_index
  status := ui.status_message.map Prod.fst
  update_available := ui.update_available
  replay := ui.replay_state.map fun r =>
    (r.paused, r.finished, r.current_index, r.currentMs arith now, r.speed_multiplier)
  target_input := (ui.target_input.input, ui.target_input.cursor, ui.target_input.error, ui.target_input.resolving)
  settings := ui.settings
  ix_cache := cache_status.map fun c => (c.loaded, c.prefix_count, c.fetched_at, c.expired, c.refreshing)
  target_list_rows := ui.target_list_cache.map fun rows =>
    rows.map fun t => (t.ip, t.hostname, t.hops_str, t.loss_str)

namespace UiState

/-- `clear_old_status`: after three seconds, in nanoseconds. -/
def clearOldStatus (ui : UiState F) (now : ℕ) : UiState F :=
  match ui.status_message with
  | some (_, time) => if 3 * 1000000000 < now - time then { ui with status_message := none } else ui
  | none => ui

/-- `set_status`. -/
def setStatus (ui : UiState F) (msg : List Char) (now : ℕ) : UiState F :=
  { ui with status_message := some (msg, now) }

/-- What `try_recv` on the update channel gives. -/
inductive UpdatePoll where
  | Ok (result : Option (List Char))
  | Disconnected
  | Empty

/-- `poll_update_check`. -/
def pollUpdateCheck (ui : UiState F) (poll : UpdatePoll) : UiState F :=
  match ui.update_available, ui.update_rx, poll with
  | none, true, .Ok result => { ui with update_available := result, update_rx := false }
  | none, true, .Disconnected => { ui with update_rx := false }
  | _, _, _ => ui

/-- `refresh_target_list_cache`, where `rows` are what `extract_target_infos` gives. -/
def refreshTargetListCache (ui : UiState F) (rows : List TargetInfo) : UiState F :=
  if ui.show_target_list then
    if ui.target_list_cache.isNone || (ui.target_list_tick + 1) % 30 = 0 then
      { ui with target_list_tick := ui.target_list_tick + 1, target_list_cache := some rows }
    else { ui with target_list_tick := ui.target_list_tick + 1 }
  else { ui with target_list_cache := none, target_list_tick := 0 }

/-- What `draw_ui` and `draw_empty_state` read of the state, the clock of a replay aside. -/
def drawn (ui : UiState F) : UiState F :=
  { ui with
    status_message := ui.status_message.map fun m => (m.1, 0)
    update_rx := false
    replay_state := ui.replay_state.map fun r => { r with replay_started_at := 0, paused_at_elapsed_ms := 0 }
    target_list_tick := 0
    target_input := { ui.target_input with pending := none } }

/-- The events of the replay. -/
def replayEvents (ui : UiState F) : Option (List ProbeEvent) := ui.replay_state.map ReplayState.events

/-- The position in the replay. -/
def replayIndex (ui : UiState F) : Option ℕ := ui.replay_state.map ReplayState.current_index

end UiState

/-- A change of the state by a poll or by a key that is none of the replay. -/
structure UiChange (F : Type) where
  apply : UiState F → UiState F
  replay : ∀ ui, (apply ui).replay_state = ui.replay_state

/-- The keys of a replay: pause, speed, seek, `Home` and `End`. -/
inductive ReplayKey (F : Type) where
  | togglePause
  | adjustSpeed (delta : F)
  | seek (delta_ms : ℤ)
  | seekTo (target_ms : ℕ)
  | seekToEnd

/-- `Event`: the terminal has a new size, a key of a replay with the status that it sets, or another key with what it
changes and with what it does to the session of the current target. -/
inductive Event (F : Type) where
  | Resize
  | Replay (key : ReplayKey F) (status : UiChange F)
  | Key (change : UiChange F) (write : Option (Session → Session))

/-- What is drawn, the clock aside. -/
structure Frame (F : Type) where
  session : Option Session
  ui : UiState F
  num_targets : ℕ
  cache_status : Option CacheStatus
  /-- The size of the terminal. -/
  area : ℕ × ℕ

/-- Where the loop is: at its top, before the drawing of a frame, or before the input. -/
inductive Place (F : Type) where
  | Top
  | Draw (fingerprint : RenderFingerprint F)
  | Input
deriving DecidableEq

/-- The variables of `run_app`, with the sessions, the clock and the terminal. -/
structure Loop (F : Type) where
  place : Place F
  ui : UiState F
  targets : List IpAddr
  sessions : KeyMap IpAddr SessionLock
  /-- What `get_cache_status` gives now. -/
  ix_status : Option CacheStatus
  /-- What it gave in this pass. -/
  cache_status : Option CacheStatus
  now : ℕ
  area : ℕ × ℕ
  /-- The events that are not handled yet. -/
  events : List (Event F)
  last_draw : Option (RenderFingerprint F)
  screen : Option (Frame F)

/-- What the polls of a pass find: a change of the dialog, a new target, and the update check. -/
structure Polled (F : Type) where
  change : UiChange F
  added : Option IpAddr
  update : UiState.UpdatePoll

/-- What the loop and the tasks beside it do. -/
inductive Action (F : Type) where
  | top (polled : Polled F)
  | draw
  | input
  | write (ip : IpAddr) (f : Session → Session)
  | addSession (ip : IpAddr) (session : Session)
  | ixStatus (status : Option CacheStatus)
  | elapse (nanos : ℕ)
  | resize (area : ℕ × ℕ)
  | event (e : Event F)

/-- The drawing part of a pass ends with this step. -/
def Action.isPass : Action F → Bool
  | .top _ => true
  | .draw => true
  | _ => false

namespace Loop

/-- The unspecified address stands for no target. -/
def currentTarget (s : Loop F) : IpAddr := (s.targets[s.ui.selected_target]?).getD App.unspecified

/-- The generation of the current session. -/
def sessionGeneration (s : Loop F) : Option UInt64 :=
  (s.sessions.lookup s.currentTarget).map SessionLock.render_generation

/-- The frame that drawing shows now. -/
def frame (s : Loop F) : Frame F where
  session := (s.sessions.lookup s.currentTarget).map SessionLock.snapshotForRender
  ui := s.ui.drawn
  num_targets := s.targets.length
  cache_status := s.cache_status
  area := s.area

/-- The fingerprint of now. -/
def fingerprint (arith : ReplayArith F) (s : Loop F) : RenderFingerprint F :=
  renderFingerprint arith s.now s.ui s.targets.length s.sessionGeneration s.cache_status

/-- The guard of a write to the session of an address, when there is one. -/
def writeSession (s : Loop F) (ip : IpAddr) (f : Session → Session) : Loop F :=
  { s with sessions := KeyMap.modify s.sessions ip (SessionLock.write f) }

/-- Events of the replay are applied to a session. -/
def applied (r : ReplayState F) (first last : ℕ) (session : Session) : Session :=
  ((r.events.take last).drop first).foldl Session.applyReplayEvent session

/-- The replay state becomes `r`. -/
def withReplay (s : Loop F) (r : ReplayState F) : Loop F := { s with ui := { s.ui with replay_state := some r } }

/-- The tick of the replay, to the position `last`. -/
def tickTo (s : Loop F) (r : ReplayState F) (target_ip : IpAddr) (last : ℕ) : Loop F :=
  let s := if r.current_index < last then s.writeSession target_ip (applied r r.current_index last) else s
  let index := if r.current_index < last then last else r.current_index
  if r.events.length ≤ index then
    let s := s.withReplay { r with current_index := index, finished := true }
    { s with ui := s.ui.setStatus "Replay complete".toList s.now }
  else s.withReplay { r with current_index := index }

/-- The tick of the replay. -/
def tickReplay (arith : ReplayArith F) (s : Loop F) : Loop F :=
  match s.ui.replay_state with
  | none => s
  | some r =>
    if r.paused || r.finished then s
    else
      match s.targets[s.ui.selected_target]? with
      | none => s
      | some target_ip =>
        s.tickTo r target_ip
          (ReplayState.advance (r.currentMs arith s.now) (r.events.drop r.current_index) r.current_index)

/-- `seek_replay_to`. -/
def seekReplayTo (s : Loop F) (r : ReplayState F) (target_ms : ℕ) : Loop F :=
  let target_ms := min target_ms r.totalDuration
  let target_index := ReplayState.eventIndexForTime r.events target_ms
  let s :=
    if target_index = r.current_index then s
    else if target_index ≤ r.current_index then
      -- Back: the session is built from scratch.
      { s with
        sessions := KeyMap.modify s.sessions s.currentTarget (SessionLock.replace fun session =>
          (r.events.take target_index).foldl Session.applyReplayEvent
            (Session.new session.target session.config s.now)) }
    else s.writeSession s.currentTarget (applied r r.current_index target_index)
  s.withReplay (Playback.rest r target_index target_ms)

/-- `seek_replay_to_end`. -/
def seekReplayToEnd (s : Loop F) (r : ReplayState F) : Loop F :=
  let s :=
    if r.current_index < r.events.length then
      s.writeSession s.currentTarget (applied r r.current_index r.events.length)
    else s
  s.withReplay (Playback.rest r r.events.length r.totalDuration)

/-- A key of the replay. -/
def replayKey (arith : ReplayArith F) (s : Loop F) (r : ReplayState F) : ReplayKey F → Loop F
  | .togglePause => s.withReplay (r.togglePause arith s.now)
  | .adjustSpeed delta => s.withReplay (r.adjustSpeed arith s.now delta)
  | .seek delta_ms => s.seekReplayTo r (ReplayState.targetMsFromDelta (r.currentMs arith s.now) delta_ms)
  | .seekTo target_ms => s.seekReplayTo r target_ms
  | .seekToEnd => s.seekReplayToEnd r

/-- A change of the UI. -/
def change (s : Loop F) (c : UiChange F) : Loop F := { s with ui := c.apply s.ui }

/-- An event is handled. -/
def handle (arith : ReplayArith F) (s : Loop F) : Event F → Loop F
  | .Resize => { s with last_draw := none }
  | .Replay key status =>
    match s.ui.replay_state with
    | none => s
    | some r => (s.replayKey arith r key).change status
  | .Key change none => s.change change
  | .Key change (some f) => (s.writeSession s.currentTarget f).change change

variable (arith : ReplayArith F) (extract : KeyMap IpAddr SessionLock → List IpAddr → List TargetInfo)

/-- The top of a pass, up to the status of the IX cache. -/
def polls (s : Loop F) (polled : Polled F) : Loop F :=
  let s := { s with ui := s.ui.clearOldStatus s.now }
  let s := s.change polled.change
  let s := { s with targets := s.targets ++ polled.added.toList }
  { s with ui := s.ui.pollUpdateCheck polled.update }

/-- What a pass does before its fingerprint. -/
def prepare (s : Loop F) (polled : Polled F) : Loop F :=
  let s := (s.polls polled).tickReplay arith
  let s := { s with cache_status := s.ix_status }
  { s with ui := s.ui.refreshTargetListCache (extract s.sessions s.targets) }

/-- `dirty`: on to the drawing, or past it. -/
def compare [DecidableEq F] (s : Loop F) : Loop F :=
  if s.last_draw = some (s.fingerprint arith) then { s with place := .Input }
  else { s with place := .Draw (s.fingerprint arith) }

/-- A step of the loop, where it is, or of a task beside it, at any time. -/
def step [DecidableEq F] (s : Loop F) : Action F → Option (Loop F)
  | .top polled =>
    match s.place with
    | .Top => some ((s.prepare arith extract polled).compare arith)
    | _ => none
  | .draw =>
    match s.place with
    | .Draw fingerprint => some { s with place := .Input, last_draw := some fingerprint, screen := some s.frame }
    | _ => none
  | .input =>
    match s.place, s.events with
    | .Input, [] => some { s with place := .Top }
    | .Input, e :: rest => some { ({ s with events := rest } : Loop F).handle arith e with place := .Top }
    | _, _ => none
  | .write ip f => some (s.writeSession ip f)
  | .addSession ip session =>
    match s.sessions.lookup ip with
    | none => some { s with sessions := s.sessions.insert ip (.new session) }
    | some _ => none
  | .ixStatus status => some { s with ix_status := status }
  | .elapse nanos => some { s with now := s.now + nanos }
  | .resize area => some { s with area := area, events := s.events ++ [.Resize] }
  | .event e => some { s with events := s.events ++ [e] }

end Loop

/-! ## What the fingerprint determines -/

section

variable {arith : ReplayArith F} {now now' : ℕ} {ui ui' : UiState F} {n n' : ℕ} {g g' : Option UInt64}
  {c c' : Option CacheStatus}

/-- The fingerprint has the position of the replay. -/
theorem replayIndex_of_fingerprint :
    (renderFingerprint arith now ui n g c).replay.map (fun x => x.2.2.1) = ui.replayIndex := by
  unfold renderFingerprint UiState.replayIndex
  rw [Option.map_map]
  rfl

/-- Frames of one fingerprint differ in the session and in the size of the terminal at most. -/
theorem drawn_eq_of_fingerprint (h : renderFingerprint arith now ui n g c = renderFingerprint arith now' ui' n' g' c')
    (hevents : ui.replayEvents = ui'.replayEvents) : ui.drawn = ui'.drawn ∧ n = n' ∧ c = c' := by
  unfold renderFingerprint at h
  rw [RenderFingerprint.mk.injEq] at h
  obtain ⟨-, hselected, hpaused, hhelp, hdetail, hsettings, hlist, hinput, htheme, hmode, htarget, hnum, hindex, hstatus,
    hupdate, hreplay, htext, hpanel, hcache, hrows⟩ := h
  have hstatus' : (ui.status_message.map fun m => (m.1, 0)) = ui'.status_message.map fun m => (m.1, 0) := by
    have hmap := congrArg (Option.map fun m : List Char => (m, 0)) hstatus
    rwa [Option.map_map, Option.map_map] at hmap
  have hreplay' : (ui.replay_state.map fun r => { r with replay_started_at := 0, paused_at_elapsed_ms := 0 }) =
      ui'.replay_state.map fun r => { r with replay_started_at := 0, paused_at_elapsed_ms := 0 } := by
    unfold UiState.replayEvents at hevents
    cases hr : ui.replay_state with
    | none =>
      rw [hr] at hevents
      rw [Option.map_none, eq_comm, Option.map_eq_none_iff] at hevents
      rw [hevents]
    | some r =>
      cases hr' : ui'.replay_state with
      | none =>
        rw [hr, hr'] at hevents
        cases hevents
      | some r' =>
        rw [hr, hr'] at hevents hreplay
        have hevents' : r.events = r'.events := Option.some.inj hevents
        have hfields := Option.some.inj hreplay
        simp only [Prod.mk.injEq] at hfields
        obtain ⟨h1, h2, h3, -, h5⟩ := hfields
        rw [Option.map_some, Option.map_some, hevents', h1, h2, h3, h5]
  have hrows' : ui.target_list_cache = ui'.target_list_cache := by
    have hinjective : Function.Injective fun t : TargetInfo => (t.ip, t.hostname, t.hops_str, t.loss_str) := by
      rintro ⟨⟩ ⟨⟩ ht
      simpa using ht
    exact Option.map_injective (List.map_injective_iff.mpr hinjective) hrows
  have hcache' : c = c' := by
    have hinjective : Function.Injective fun c : CacheStatus =>
        (c.loaded, c.prefix_count, c.fetched_at, c.expired, c.refreshing) := by
      rintro ⟨⟩ ⟨⟩ hc
      simpa using hc
    exact Option.map_injective hinjective hcache
  simp only [Prod.mk.injEq] at htext
  obtain ⟨htext, hcursor, herror, hresolving⟩ := htext
  refine ⟨?_, hnum, hcache'⟩
  unfold UiState.drawn
  rw [hstatus', hreplay', hrows', hselected, hpaused, hhelp, hdetail, hsettings, hlist, hinput, htheme, hmode, htarget,
    hindex, hupdate, hpanel]
  dsimp only
  rw [htext, hcursor, herror, hresolving]

end

/-! ## What a generation says of a session -/

section

variable {sessions sessions' : KeyMap IpAddr SessionLock} {ip : IpAddr} {generation : Option UInt64}
  {shown : Option Session} {n : ℕ}

/-- No generation is above `n`. -/
def Counted (n : ℕ) (sessions : KeyMap IpAddr SessionLock) : Prop :=
  ∀ ip l, sessions.lookup ip = some l → l.render_generation.toNat ≤ n

/-- The session is `shown` unless its generation has grown since it was `generation`. -/
structure Since (sessions : KeyMap IpAddr SessionLock) (ip : IpAddr) (generation : Option UInt64)
    (shown : Option Session) : Prop where
  unchanged : (sessions.lookup ip).map SessionLock.render_generation = generation →
    shown = (sessions.lookup ip).map SessionLock.snapshotForRender
  grown : ∀ g, generation = some g → ∃ l, sessions.lookup ip = some l ∧ g ≤ l.render_generation

/-- At most one session was written to, once. -/
def Written (sessions sessions' : KeyMap IpAddr SessionLock) : Prop :=
  sessions' = sessions ∨ ∃ ip f, sessions' = KeyMap.modify sessions ip (SessionLock.write f)

/-- Before `2^64` writes a generation grows by one with each. -/
theorem toNat_write (f : Session → Session) {l : SessionLock} (hl : l.render_generation.toNat ≤ n) (hn : n + 1 < 2^64) :
    (l.write f).render_generation.toNat = l.render_generation.toNat + 1 := by
  have hadd : (l.render_generation + 1).toNat = (l.render_generation.toNat + 1) % 2^64 := UInt64.toNat_add _ _
  rw [Nat.mod_eq_of_lt (by omega)] at hadd
  exact hadd

/-- A write raises the highest generation by one at most. -/
theorem Counted.written (h : Counted n sessions) (hn : n + 1 < 2^64) (hw : Written sessions sessions') :
    Counted (n + 1) sessions' := by
  rcases hw with rfl | ⟨ip, f, rfl⟩
  · exact fun ip l hl => (h ip l hl).trans (Nat.le_succ n)
  · intro ip' l hl
    rw [KeyMap.lookup_modify] at hl
    split_ifs at hl with hip
    · obtain ⟨l₀, hl₀, rfl⟩ := Option.map_eq_some_iff.mp hl
      rw [toNat_write f (h ip l₀ hl₀) hn]
      exact Nat.succ_le_succ (h ip l₀ hl₀)
    · exact (h ip' l hl).trans (Nat.le_succ n)

/-- Putting a new session in the place of an old one raises the highest generation by one at most. -/
theorem Counted.replaced (h : Counted n sessions) (ip : IpAddr) (f : Session → Session) :
    Counted (n + 1) (KeyMap.modify sessions ip (SessionLock.replace f)) := by
  intro ip' l hl
  rw [KeyMap.lookup_modify] at hl
  split_ifs at hl with hip
  · obtain ⟨l₀, -, rfl⟩ := Option.map_eq_some_iff.mp hl
    exact Nat.le_add_left 1 n
  · exact (h ip' l hl).trans (Nat.le_succ n)

/-- A new session has the generation zero. -/
theorem Counted.added (h : Counted n sessions) (ip : IpAddr) (session : Session) :
    Counted (n + 1) (sessions.insert ip (.new session)) := by
  intro ip' l hl
  rw [KeyMap.lookup_insert] at hl
  split_ifs at hl with hip
  · rw [← Option.some.inj hl]
    exact Nat.zero_le _
  · exact (h ip' l hl).trans (Nat.le_succ n)

/-- A session that was written to has another generation than before. -/
theorem Since.written (h : Since sessions ip generation shown) (hcounted : Counted n sessions) (hn : n + 1 < 2^64)
    (hw : Written sessions sessions') : Since sessions' ip generation shown := by
  rcases hw with rfl | ⟨ip', f, rfl⟩
  · exact h
  by_cases hip : ip = ip'
  · cases hl : sessions.lookup ip with
    | none =>
      have hnone : (KeyMap.modify sessions ip' (SessionLock.write f)).lookup ip = none := by
        rw [KeyMap.lookup_modify, if_pos hip, ← hip, hl, Option.map_none]
      constructor
      · rw [hnone, ← hl]
        exact h.unchanged
      · rw [hnone, ← hl]
        exact h.grown
    | some l =>
      have hsome : (KeyMap.modify sessions ip' (SessionLock.write f)).lookup ip = some (l.write f) := by
        rw [KeyMap.lookup_modify, if_pos hip, ← hip, hl, Option.map_some]
      have hgrows := toNat_write f (hcounted ip l hl) hn
      have hle : ∀ g, generation = some g → g.toNat ≤ l.render_generation.toNat := by
        intro g hg
        obtain ⟨l', hl', hle⟩ := h.grown g hg
        rw [hl, Option.some.injEq] at hl'
        rw [hl']
        exact UInt64.le_iff_toNat_le.mp hle
      constructor
      · rw [hsome]
        intro hg
        have hle' := hle _ hg.symm
        omega
      · intro g hg
        have hle' := hle g hg
        exact ⟨_, hsome, UInt64.le_iff_toNat_le.mpr (by omega)⟩
  · have hother : (KeyMap.modify sessions ip' (SessionLock.write f)).lookup ip = sessions.lookup ip := by
      rw [KeyMap.lookup_modify, if_neg hip]
    constructor
    · rw [hother]
      exact h.unchanged
    · rw [hother]
      exact h.grown

/-- A session that is new was not there before. -/
theorem Since.added (h : Since sessions ip generation shown) {ip' : IpAddr} (hnone : sessions.lookup ip' = none)
    (session : Session) : Since (sessions.insert ip' (.new session)) ip generation shown := by
  by_cases hip : ip = ip'
  · have hgeneration : generation = none := by
      cases hg : generation with
      | none => rfl
      | some g =>
        obtain ⟨l, hl, -⟩ := h.grown g hg
        rw [hip, hnone] at hl
        cases hl
    constructor
    · rw [KeyMap.lookup_insert, if_pos hip, hgeneration]
      exact nofun
    · rw [hgeneration]
      exact nofun
  · have hother : (sessions.insert ip' (.new session)).lookup ip = sessions.lookup ip := by
      rw [KeyMap.lookup_insert, if_neg hip]
    constructor
    · rw [hother]
      exact h.unchanged
    · rw [hother]
      exact h.grown

end

/-! ## What the loop keeps -/

namespace Loop

/-- The target that a fingerprint is about. Targets are only ever added. -/
def shownTarget (targets : List IpAddr) (fingerprint : RenderFingerprint F) : IpAddr :=
  ((targets.take fingerprint.num_targets)[fingerprint.selected_target]?).getD App.unspecified

/-- A key has taken the replay back since the fingerprint, and paused it. -/
def Rewound (s : Loop F) (fingerprint : RenderFingerprint F) : Prop :=
  ∃ r, s.ui.replay_state = some r ∧ r.paused = true ∧
    fingerprint.replay.map (fun x => x.2.2.1) ≠ some r.current_index

/-- What a fingerprint and the frame that was drawn after it have to do with the state. -/
structure Shown (arith : ReplayArith F) (events : Option (List ProbeEvent)) (s : Loop F)
    (fingerprint : RenderFingerprint F) (frame : Frame F) : Prop where
  looked : ∃ now ui, ui.drawn = frame.ui ∧ ui.replayEvents = events ∧
    fingerprint = renderFingerprint arith now ui frame.num_targets fingerprint.session_generation frame.cache_status
  num_le : frame.num_targets ≤ s.targets.length
  session : Since s.sessions (shownTarget s.targets fingerprint) fingerprint.session_generation frame.session ∨
    s.place = .Top ∧ s.Rewound fingerprint
  index : s.place = .Input → fingerprint.replay.map (fun x => x.2.2.1) = s.ui.replayIndex
  area : Event.Resize ∈ s.events ∨ frame.area = s.area

/-- A fingerprint between its comparison and the drawing. -/
structure Measured (arith : ReplayArith F) (s : Loop F) (fingerprint : RenderFingerprint F) : Prop where
  looked : ∃ now,
    fingerprint = renderFingerprint arith now s.ui s.targets.length fingerprint.session_generation s.cache_status
  session : ∃ shown, Since s.sessions s.currentTarget fingerprint.session_generation shown

/-- The invariant of the loop, after `n` steps. -/
structure Inv (arith : ReplayArith F) (events : Option (List ProbeEvent)) (n : ℕ) (s : Loop F) : Prop where
  counted : Counted n s.sessions
  replayEvents : s.ui.replayEvents = events
  measured : ∀ fingerprint, s.place = .Draw fingerprint → Measured arith s fingerprint
  shown : s.place = .Top ∨ s.place = .Input → ∀ fingerprint, s.last_draw = some fingerprint →
    ∃ frame, s.screen = some frame ∧ Shown arith events s fingerprint frame

variable {arith : ReplayArith F} {extract : KeyMap IpAddr SessionLock → List IpAddr → List TargetInfo}
  {events : Option (List ProbeEvent)} {n : ℕ} {s t : Loop F} {fingerprint : RenderFingerprint F} {frame : Frame F}

/-- More targets leave the one that is shown. -/
theorem shownTarget_of_prefix {targets targets' : List IpAddr} (h : targets <+: targets')
    (hle : fingerprint.num_targets ≤ targets.length) :
    shownTarget targets' fingerprint = shownTarget targets fingerprint := by
  obtain ⟨added, rfl⟩ := h
  rw [shownTarget, List.take_append_of_le_length hle, shownTarget]

/-- The target of a fingerprint is the current one while the number of targets and the selection are. -/
theorem shownTarget_eq_currentTarget (hnum : fingerprint.num_targets = s.targets.length)
    (hselected : fingerprint.selected_target = s.ui.selected_target) :
    shownTarget s.targets fingerprint = s.currentTarget := by
  rw [shownTarget, hnum, hselected, List.take_length, currentTarget]

/-- A fingerprint has the number of targets of its frame. -/
theorem Shown.num_eq (h : Shown arith events s fingerprint frame) : fingerprint.num_targets = frame.num_targets := by
  obtain ⟨now, ui, -, -, hlooked⟩ := h.looked
  rw [hlooked]
  rfl

/-! ### Tasks beside the loop -/

/-- A task took a step, of which the loop sees the sessions and the events at most. -/
structure Beside (n : ℕ) (s t : Loop F) : Prop where
  place : t.place = s.place
  ui : t.ui = s.ui
  targets : t.targets = s.targets
  cache_status : t.cache_status = s.cache_status
  last_draw : t.last_draw = s.last_draw
  screen : t.screen = s.screen
  counted : Counted (n + 1) t.sessions
  since : ∀ ip generation shown, Since s.sessions ip generation shown → Since t.sessions ip generation shown
  area : Event.Resize ∈ t.events ∨ t.area = s.area ∧ (Event.Resize ∈ s.events → Event.Resize ∈ t.events)

/-- A task beside the loop keeps the invariant. -/
theorem Inv.beside (h : Inv arith events n s) (hb : Beside n s t) : Inv arith events (n + 1) t := by
  constructor
  case counted => exact hb.counted
  case replayEvents =>
    rw [hb.ui]
    exact h.replayEvents
  case measured =>
    intro fingerprint hplace
    rw [hb.place] at hplace
    obtain ⟨hlooked, shown, hsince⟩ := h.measured fingerprint hplace
    constructor
    · rw [hb.ui, hb.targets, hb.cache_status]
      exact hlooked
    · rw [currentTarget, hb.ui, hb.targets]
      exact ⟨shown, hb.since _ _ _ hsince⟩
  case shown =>
    intro hplace fingerprint hlast
    rw [hb.place] at hplace
    rw [hb.last_draw] at hlast
    obtain ⟨frame, hscreen, hshown⟩ := h.shown hplace fingerprint hlast
    refine ⟨frame, hb.screen.trans hscreen, ?_⟩
    constructor
    case looked => exact hshown.looked
    case num_le =>
      rw [hb.targets]
      exact hshown.num_le
    case session =>
      rw [hb.targets, hb.place, Rewound, hb.ui]
      exact hshown.session.imp_left (hb.since _ _ _)
    case index =>
      rw [hb.place, hb.ui]
      exact hshown.index
    case area =>
      rcases hb.area with hresize | ⟨harea, hkept⟩
      · exact .inl hresize
      · rw [harea]
        exact hshown.area.imp_left hkept

/-- A write to a session keeps the invariant. -/
theorem Inv.writeSession (h : Inv arith events n s) (hn : n + 1 < 2^64) (ip : IpAddr) (f : Session → Session) :
    Inv arith events (n + 1) (s.writeSession ip f) := by
  have hw : Written s.sessions (s.writeSession ip f).sessions := .inr ⟨ip, f, rfl⟩
  exact h.beside
    { place := rfl, ui := rfl, targets := rfl, cache_status := rfl, last_draw := rfl, screen := rfl
      counted := h.counted.written hn hw
      since := fun _ _ _ hsince => hsince.written h.counted hn hw
      area := .inr ⟨rfl, id⟩ }

/-- A new target keeps the invariant. -/
theorem Inv.addSession (h : Inv arith events n s) {ip : IpAddr} (hnone : s.sessions.lookup ip = none)
    (session : Session) : Inv arith events (n + 1) { s with sessions := s.sessions.insert ip (.new session) } :=
  h.beside
    { place := rfl, ui := rfl, targets := rfl, cache_status := rfl, last_draw := rfl, screen := rfl
      counted := h.counted.added ip session
      since := fun _ _ _ hsince => hsince.added hnone session
      area := .inr ⟨rfl, id⟩ }

/-- A step that leaves the sessions. -/
theorem Inv.quiet (h : Inv arith events n s) (ix_status : Option CacheStatus) (now : ℕ) {area : ℕ × ℕ}
    {queue : List (Event F)}
    (harea : Event.Resize ∈ queue ∨ area = s.area ∧ (Event.Resize ∈ s.events → Event.Resize ∈ queue)) :
    Inv arith events (n + 1) { s with ix_status := ix_status, now := now, area := area, events := queue } :=
  h.beside
    { place := rfl, ui := rfl, targets := rfl, cache_status := rfl, last_draw := rfl, screen := rfl
      counted := fun ip l hl => (h.counted ip l hl).trans (Nat.le_succ n)
      since := fun _ _ _ hsince => hsince
      area := harea }

/-! ### Drawing -/

/-- What is drawn is what was measured, but for writes in between, which count. -/
theorem Inv.draw (h : Inv arith events n s) (hplace : s.place = .Draw fingerprint) :
    Inv arith events (n + 1)
      { s with place := .Input, last_draw := some fingerprint, screen := some s.frame } := by
  obtain ⟨⟨now, hlooked⟩, shown, hsince⟩ := h.measured fingerprint hplace
  have hnum : fingerprint.num_targets = s.targets.length := by
    rw [hlooked]
    rfl
  have hselected : fingerprint.selected_target = s.ui.selected_target := by
    rw [hlooked]
    rfl
  have htarget := shownTarget_eq_currentTarget hnum hselected
  constructor
  case counted => exact fun ip l hl => (h.counted ip l hl).trans (Nat.le_succ n)
  case replayEvents => exact h.replayEvents
  case measured =>
    intro fingerprint' hplace'
    cases hplace'
  case shown =>
    intro _ fingerprint' hlast
    obtain rfl : fingerprint = fingerprint' := Option.some.inj hlast
    refine ⟨s.frame, rfl, ?_⟩
    constructor
    case looked => exact ⟨now, s.ui, rfl, h.replayEvents, hlooked⟩
    case num_le => exact le_rfl
    case session =>
      left
      dsimp only
      rw [htarget]
      exact ⟨fun _ => rfl, hsince.grown⟩
    case index =>
      intro _
      rw [hlooked]
      exact replayIndex_of_fingerprint
    case area => exact .inr rfl

/-! ### Input -/

/-- What an event does to the variables that the drawing depends on. -/
structure Handled (s t : Loop F) : Prop where
  targets : t.targets = s.targets
  last_draw : t.last_draw = s.last_draw
  screen : t.screen = s.screen
  events : Event.Resize ∈ s.events → Event.Resize ∈ t.events
  area : t.area = s.area
  replayEvents : t.ui.replayEvents = s.ui.replayEvents
  /-- At most one write, or the session was replaced and the replay is further back. -/
  sessions : Written s.sessions t.sessions ∨
    (∃ ip f, t.sessions = KeyMap.modify s.sessions ip (SessionLock.replace f)) ∧
      ∃ r r', s.ui.replay_state = some r ∧ t.ui.replay_state = some r' ∧ r'.paused = true ∧
        r'.current_index < r.current_index

/-- A change of the UI that is none of the replay. -/
theorem Handled.change (h : Handled s t) (c : UiChange F) : Handled s (t.change c) where
  targets := h.targets
  last_draw := h.last_draw
  screen := h.screen
  events := h.events
  area := h.area
  replayEvents := by
    rw [← h.replayEvents, Loop.change, UiState.replayEvents, c.replay, UiState.replayEvents]
  sessions := by
    rw [Loop.change, c.replay]
    exact h.sessions

/-- A key that leaves the sessions. -/
theorem handled_withReplay {r r' : ReplayState F} (hr : s.ui.replay_state = some r) (hevents : r'.events = r.events) :
    Handled s (s.withReplay r') where
  targets := rfl
  last_draw := rfl
  screen := rfl
  events := id
  area := rfl
  replayEvents := by
    rw [UiState.replayEvents, UiState.replayEvents, hr]
    exact congrArg some hevents
  sessions := .inl (.inl rfl)

/-- A key that writes to a session. -/
theorem handled_writeSession {r r' : ReplayState F} (hr : s.ui.replay_state = some r) (hevents : r'.events = r.events)
    (ip : IpAddr) (f : Session → Session) : Handled s ((s.writeSession ip f).withReplay r') where
  targets := rfl
  last_draw := rfl
  screen := rfl
  events := id
  area := rfl
  replayEvents := by
    rw [UiState.replayEvents, UiState.replayEvents, hr]
    exact congrArg some hevents
  sessions := .inl (.inr ⟨ip, f, rfl⟩)

/-- A seek is one of the events that are handled. -/
theorem handled_seekReplayTo {r : ReplayState F} (hr : s.ui.replay_state = some r) (target_ms : ℕ) :
    Handled s (s.seekReplayTo r target_ms) := by
  unfold seekReplayTo
  dsimp only
  generalize ReplayState.eventIndexForTime r.events (min target_ms r.totalDuration) = target_index
  by_cases hsame : target_index = r.current_index
  · rw [if_pos hsame]
    have hevents : (Playback.rest r target_index (min target_ms r.totalDuration)).events = r.events := rfl
    exact handled_withReplay hr hevents
  · rw [if_neg hsame]
    by_cases hback : target_index ≤ r.current_index
    · rw [if_pos hback]
      have hlt : target_index < r.current_index := lt_of_le_of_ne hback hsame
      constructor
      case targets => rfl
      case last_draw => rfl
      case screen => rfl
      case events => exact id
      case area => rfl
      case replayEvents =>
        rw [UiState.replayEvents, UiState.replayEvents, hr]
        rfl
      case sessions => exact .inr ⟨⟨_, _, rfl⟩, r, _, hr, rfl, rfl, hlt⟩
    · rw [if_neg hback]
      have hevents : (Playback.rest r target_index (min target_ms r.totalDuration)).events = r.events := rfl
      exact handled_writeSession hr hevents _ _

/-- The seek to the end is one of the events that are handled. -/
theorem handled_seekReplayToEnd {r : ReplayState F} (hr : s.ui.replay_state = some r) :
    Handled s (s.seekReplayToEnd r) := by
  unfold seekReplayToEnd
  dsimp only
  have hevents : (Playback.rest r r.events.length r.totalDuration).events = r.events := rfl
  split_ifs with hbefore
  · exact handled_writeSession hr hevents _ _
  · exact handled_withReplay hr hevents

/-- Every key of the replay is one of the events that are handled. -/
theorem handled_replayKey {r : ReplayState F} (hr : s.ui.replay_state = some r) (key : ReplayKey F) :
    Handled s (s.replayKey arith r key) := by
  cases key with
  | togglePause =>
    refine handled_withReplay hr ?_
    unfold ReplayState.togglePause
    split_ifs <;> rfl
  | adjustSpeed delta =>
    refine handled_withReplay hr ?_
    unfold ReplayState.adjustSpeed
    dsimp only
    split_ifs <;> rfl
  | seek delta_ms => exact handled_seekReplayTo hr _
  | seekTo target_ms => exact handled_seekReplayTo hr target_ms
  | seekToEnd => exact handled_seekReplayToEnd hr

/-- Every event but a new size. -/
theorem handled_handle (e : Event F) (he : e ≠ .Resize) : Handled s (s.handle arith e) := by
  have hsame : Handled s s :=
    { targets := rfl, last_draw := rfl, screen := rfl, events := id, area := rfl, replayEvents := rfl
      sessions := .inl (.inl rfl) }
  cases e with
  | Resize => exact absurd rfl he
  | Replay key status =>
    rw [handle]
    cases hr : s.ui.replay_state with
    | none => exact hsame
    | some r => exact (handled_replayKey hr key).change status
  | Key change write =>
    cases write with
    | none => exact hsame.change change
    | some f =>
      have hwritten : Handled s (s.writeSession s.currentTarget f) :=
        { targets := rfl, last_draw := rfl, screen := rfl, events := id, area := rfl, replayEvents := rfl
          sessions := .inl (.inr ⟨_, f, rfl⟩) }
      exact hwritten.change change

/-- An event that is taken off the queue. -/
theorem Handled.of_rest {e : Event F} {rest : List (Event F)} (hevents : s.events = e :: rest) (he : e ≠ .Resize)
    (h : Handled { s with events := rest } t) : Handled s t where
  targets := h.targets
  last_draw := h.last_draw
  screen := h.screen
  events := by
    intro hresize
    rw [hevents] at hresize
    exact h.events ((List.mem_cons.mp hresize).resolve_left he.symm)
  area := h.area
  replayEvents := h.replayEvents
  sessions := h.sessions

/-- After an event the screen shows what it showed, or the replay has gone back. -/
theorem Inv.handled (h : Inv arith events n s) (hplace : s.place = .Input) (hn : n + 1 < 2^64) (ht : Handled s t) :
    Inv arith events (n + 1) { t with place := .Top } := by
  constructor
  case counted =>
    rcases ht.sessions with hw | ⟨⟨ip, f, heq⟩, -⟩
    · exact h.counted.written hn hw
    · dsimp only
      rw [heq]
      exact h.counted.replaced ip f
  case replayEvents => exact ht.replayEvents.trans h.replayEvents
  case measured =>
    intro fingerprint' hplace'
    cases hplace'
  case shown =>
    intro _ fingerprint hlast
    rw [ht.last_draw] at hlast
    obtain ⟨frame, hscreen, hshown⟩ := h.shown (.inr hplace) fingerprint hlast
    refine ⟨frame, ht.screen.trans hscreen, ?_⟩
    constructor
    case looked => exact hshown.looked
    case num_le =>
      dsimp only
      rw [ht.targets]
      exact hshown.num_le
    case session =>
      have hsince : Since s.sessions (shownTarget s.targets fingerprint) fingerprint.session_generation frame.session :=
        hshown.session.resolve_right fun htop => by rw [hplace] at htop; cases htop.1
      dsimp only
      rw [ht.targets]
      rcases ht.sessions with hw | ⟨-, r, r', hr, hr', hpaused, hlt⟩
      · exact .inl (hsince.written h.counted hn hw)
      · refine .inr ⟨rfl, r', hr', hpaused, ?_⟩
        rw [hshown.index hplace, UiState.replayIndex, hr]
        exact fun heq => absurd (Option.some.inj heq) hlt.ne'
    case index =>
      intro htop
      cases htop
    case area =>
      dsimp only
      rw [ht.area]
      exact hshown.area.imp_left ht.events

/-- After a new size there is no last frame. -/
theorem Inv.resize (h : Inv arith events n s) (rest : List (Event F)) :
    Inv arith events (n + 1) { ({ s with events := rest } : Loop F).handle arith .Resize with place := .Top } := by
  constructor
  case counted => exact fun ip l hl => (h.counted ip l hl).trans (Nat.le_succ n)
  case replayEvents => exact h.replayEvents
  case measured =>
    intro fingerprint hdraw
    cases hdraw
  case shown =>
    intro _ fingerprint hlast
    cases hlast

/-! ### The top of a pass -/

/-- What a pass does before its fingerprint. -/
structure Prepared (s t : Loop F) : Prop where
  targets : s.targets <+: t.targets
  last_draw : t.last_draw = s.last_draw
  screen : t.screen = s.screen
  events : t.events = s.events
  area : t.area = s.area
  replayEvents : t.ui.replayEvents = s.ui.replayEvents
  sessions : Written s.sessions t.sessions
  /-- A replay that is paused stays where it is. -/
  paused : ∀ r, s.ui.replay_state = some r → r.paused = true → t.ui.replayIndex = some r.current_index

/-- A pass that leaves the replay and what was drawn, and only adds targets, prepares the fingerprint. -/
theorem Prepared.of_replay_state (htargets : s.targets <+: t.targets) (hreplay : t.ui.replay_state = s.ui.replay_state)
    (hrest : (t.last_draw, t.screen, t.events, t.area, t.sessions) =
      (s.last_draw, s.screen, s.events, s.area, s.sessions)) :
    Prepared s t := by
  simp only [Prod.mk.injEq] at hrest
  obtain ⟨hlast, hscreen, hevents, harea, hsessions⟩ := hrest
  constructor
  case targets => exact htargets
  case last_draw => exact hlast
  case screen => exact hscreen
  case events => exact hevents
  case area => exact harea
  case replayEvents => rw [UiState.replayEvents, hreplay, UiState.replayEvents]
  case sessions => exact .inl hsessions
  case paused =>
    intro r hr _
    rw [UiState.replayIndex, hreplay, hr, Option.map_some]

/-- Clearing an old status leaves the replay. -/
theorem replay_state_clearOldStatus (ui : UiState F) (now : ℕ) :
    (ui.clearOldStatus now).replay_state = ui.replay_state := by
  unfold UiState.clearOldStatus
  split
  · split_ifs <;> rfl
  · rfl

/-- The update check leaves the replay. -/
theorem replay_state_pollUpdateCheck (ui : UiState F) (poll : UiState.UpdatePoll) :
    (ui.pollUpdateCheck poll).replay_state = ui.replay_state := by
  unfold UiState.pollUpdateCheck
  split <;> rfl

/-- The cache of the target list leaves the replay. -/
theorem replay_state_refreshTargetListCache (ui : UiState F) (rows : List TargetInfo) :
    (ui.refreshTargetListCache rows).replay_state = ui.replay_state := by
  unfold UiState.refreshTargetListCache
  split_ifs <;> rfl

/-- The polls of a pass prepare its fingerprint. -/
theorem prepared_polls (s : Loop F) (polled : Polled F) : Prepared s (s.polls polled) := by
  have hreplay : (s.polls polled).ui.replay_state = s.ui.replay_state := by
    unfold polls Loop.change
    dsimp only
    rw [replay_state_pollUpdateCheck, polled.change.replay, replay_state_clearOldStatus]
  exact .of_replay_state (List.prefix_append _ _) hreplay rfl

/-- The tick changes the replay, the status and one session at most. -/
theorem exists_tickTo (s : Loop F) (r : ReplayState F) (target_ip : IpAddr) (last : ℕ) :
    ∃ r' status sessions, r'.events = r.events ∧ Written s.sessions sessions ∧
      s.tickTo r target_ip last =
        { s with sessions := sessions, ui := { s.ui with replay_state := some r', status_message := status } } := by
  unfold tickTo
  dsimp only
  split_ifs
  · exact ⟨{ r with current_index := last, finished := true }, _, _, rfl, .inr ⟨target_ip, _, rfl⟩, rfl⟩
  · exact ⟨{ r with current_index := last }, _, _, rfl, .inr ⟨target_ip, _, rfl⟩, rfl⟩
  · exact ⟨{ r with finished := true }, _, _, rfl, .inl rfl, rfl⟩
  · exact ⟨r, _, _, rfl, .inl rfl, rfl⟩

/-- The tick moves no replay that is paused. -/
theorem prepared_tickReplay (s : Loop F) : Prepared s (s.tickReplay arith) := by
  have hsame : Prepared s s := .of_replay_state List.prefix_rfl rfl rfl
  unfold tickReplay
  cases hr : s.ui.replay_state with
  | none => exact hsame
  | some r =>
    dsimp only
    split_ifs with hrests
    · exact hsame
    cases s.targets[s.ui.selected_target]? with
    | none => exact hsame
    | some target_ip =>
      obtain ⟨r', status, sessions, hevents, hw, htick⟩ := exists_tickTo s r target_ip
        (ReplayState.advance (r.currentMs arith s.now) (r.events.drop r.current_index) r.current_index)
      dsimp only
      rw [htick]
      constructor
      case targets => exact List.prefix_rfl
      case last_draw => rfl
      case screen => rfl
      case events => rfl
      case area => rfl
      case replayEvents =>
        rw [UiState.replayEvents, UiState.replayEvents, hr]
        exact congrArg some hevents
      case sessions => exact hw
      case paused =>
        intro r₀ hr₀ hpaused
        rw [hr, Option.some.injEq] at hr₀
        rw [hr₀, hpaused] at hrests
        exact absurd rfl hrests

/-- What a pass does before its fingerprint prepares it. -/
theorem prepared_prepare (s : Loop F) (polled : Polled F) : Prepared s (s.prepare arith extract polled) := by
  have hpolls := prepared_polls s polled
  have htick : Prepared (s.polls polled) ((s.polls polled).tickReplay arith) := prepared_tickReplay _
  have hreplay : (s.prepare arith extract polled).ui.replay_state =
      ((s.polls polled).tickReplay arith).ui.replay_state := replay_state_refreshTargetListCache _ _
  constructor
  case targets => exact hpolls.targets.trans htick.targets
  case last_draw => exact htick.last_draw.trans hpolls.last_draw
  case screen => exact htick.screen.trans hpolls.screen
  case events => exact htick.events.trans hpolls.events
  case area => exact htick.area.trans hpolls.area
  case replayEvents =>
    rw [UiState.replayEvents, hreplay]
    exact htick.replayEvents.trans hpolls.replayEvents
  case sessions =>
    have hsessions : (s.polls polled).sessions = s.sessions := rfl
    rw [← hsessions]
    exact htick.sessions
  case paused =>
    intro r hr hpaused
    have hindex := hpolls.paused r hr hpaused
    rw [UiState.replayIndex, hreplay]
    have hkept : (s.polls polled).ui.replay_state = some r := by
      have hpoll : (s.polls polled).ui.replay_state = s.ui.replay_state := by
        unfold polls Loop.change
        dsimp only
        rw [replay_state_pollUpdateCheck, polled.change.replay, replay_state_clearOldStatus]
      rw [hpoll, hr]
    exact htick.paused r hkept hpaused

/-- When the fingerprint is that of the last frame, the last frame is what drawing would show. -/
theorem Inv.exists_frame (h : Inv arith events n s) (hplace : s.place = .Top) (hn : n + 1 < 2^64) (hp : Prepared s t)
    (hsame : t.last_draw = some (t.fingerprint arith)) :
    ∃ frame, t.screen = some frame ∧ frame = { t.frame with area := frame.area } ∧
      Since t.sessions t.currentTarget t.sessionGeneration frame.session ∧
      (Event.Resize ∈ t.events ∨ frame.area = t.area) := by
  rw [hp.last_draw] at hsame
  obtain ⟨frame, hscreen, hshown⟩ := h.shown (.inl hplace) _ hsame
  obtain ⟨now, ui, hui, hevents, hlooked⟩ := hshown.looked
  have hevents' : ui.replayEvents = t.ui.replayEvents := by
    rw [hevents, hp.replayEvents, h.replayEvents]
  obtain ⟨hdrawn, hnum, hcache⟩ := drawn_eq_of_fingerprint hlooked.symm hevents'
  have hsince : Since s.sessions (shownTarget s.targets (t.fingerprint arith)) t.sessionGeneration frame.session := by
    refine hshown.session.resolve_right ?_
    rintro ⟨-, r, hr, hpaused, hindex⟩
    -- A replay that has gone back rests there, and its position is part of the fingerprint.
    rw [← hp.paused r hr hpaused] at hindex
    exact hindex replayIndex_of_fingerprint
  have htarget : shownTarget s.targets (t.fingerprint arith) = t.currentTarget := by
    rw [← shownTarget_of_prefix hp.targets (hshown.num_eq.trans_le hshown.num_le)]
    exact shownTarget_eq_currentTarget rfl rfl
  rw [htarget] at hsince
  have hsince' := hsince.written h.counted hn hp.sessions
  refine ⟨frame, hp.screen.trans hscreen, ?_, hsince', ?_⟩
  · have hsession := hsince'.unchanged rfl
    obtain ⟨session, ui', num_targets, cache_status, area⟩ := frame
    dsimp only at hui hnum hcache hsession
    rw [frame, ← hsession, ← hdrawn, hui, hnum, hcache]
  · rw [hp.events, hp.area]
    exact hshown.area

/-- A pass draws, or leaves what drawing would show. -/
theorem Inv.compare [DecidableEq F] (h : Inv arith events n s) (hplace : s.place = .Top) (hn : n + 1 < 2^64)
    (hp : Prepared s t) : Inv arith events (n + 1) (t.compare arith) := by
  have hcounted := h.counted.written hn hp.sessions
  have hevents : t.ui.replayEvents = events := hp.replayEvents.trans h.replayEvents
  unfold Loop.compare
  split_ifs with hsame
  · obtain ⟨frame, hscreen, hframe, hsince, harea⟩ := h.exists_frame hplace hn hp hsame
    constructor
    case counted => exact hcounted
    case replayEvents => exact hevents
    case measured =>
      intro fingerprint hdraw
      cases hdraw
    case shown =>
      intro _ fingerprint hlast
      obtain rfl : t.fingerprint arith = fingerprint := Option.some.inj (hsame.symm.trans hlast)
      refine ⟨frame, hscreen, ?_⟩
      constructor
      case looked =>
        refine ⟨t.now, t.ui, ?_, hevents, ?_⟩
        · rw [hframe]
          rfl
        · rw [hframe]
          rfl
      case num_le =>
        rw [hframe]
        exact le_rfl
      case session =>
        left
        dsimp only
        rw [shownTarget_eq_currentTarget rfl rfl]
        exact hsince
      case index => exact fun _ => replayIndex_of_fingerprint
      case area => exact harea
  · constructor
    case counted => exact hcounted
    case replayEvents => exact hevents
    case measured =>
      intro fingerprint hdraw
      obtain rfl : t.fingerprint arith = fingerprint := Place.Draw.inj hdraw
      refine ⟨⟨t.now, rfl⟩, (t.sessions.lookup t.currentTarget).map SessionLock.snapshotForRender, fun _ => rfl, ?_⟩
      intro g hg
      obtain ⟨l, hl, rfl⟩ := Option.map_eq_some_iff.mp hg
      exact ⟨l, hl, UInt64.le_refl _⟩
    case shown =>
      intro hdraw
      rcases hdraw with hdraw | hdraw <;> cases hdraw

/-- Every step keeps the invariant. -/
theorem Inv.step [DecidableEq F] (h : Inv arith events n s) (hn : n + 1 < 2^64) {a : Action F}
    (hstep : s.step arith extract a = some t) : Inv arith events (n + 1) t := by
  cases a with
  | top polled =>
    rw [Loop.step] at hstep
    split at hstep
    case h_1 hplace =>
      rw [← Option.some.inj hstep]
      exact h.compare hplace hn (prepared_prepare s polled)
    case h_2 => cases hstep
  | draw =>
    rw [Loop.step] at hstep
    split at hstep
    case h_1 fingerprint hplace =>
      rw [← Option.some.inj hstep]
      exact h.draw hplace
    case h_2 => cases hstep
  | input =>
    rw [Loop.step] at hstep
    split at hstep
    case h_1 hplace hevents =>
      rw [← Option.some.inj hstep]
      exact h.handled hplace hn
        { targets := rfl, last_draw := rfl, screen := rfl, events := id, area := rfl, replayEvents := rfl
          sessions := .inl (.inl rfl) }
    case h_2 e rest hplace hevents =>
      rw [← Option.some.inj hstep]
      by_cases he : e = .Resize
      · rw [he]
        exact h.resize rest
      · exact h.handled hplace hn (.of_rest hevents he (handled_handle e he))
    case h_3 => cases hstep
  | write ip f =>
    rw [← Option.some.inj hstep]
    exact h.writeSession hn ip f
  | addSession ip session =>
    rw [Loop.step] at hstep
    split at hstep
    case h_1 hnone =>
      rw [← Option.some.inj hstep]
      exact h.addSession hnone session
    case h_2 => cases hstep
  | ixStatus status =>
    rw [← Option.some.inj hstep]
    exact h.quiet status s.now (.inr ⟨rfl, id⟩)
  | elapse nanos =>
    rw [← Option.some.inj hstep]
    exact h.quiet s.ix_status (s.now + nanos) (.inr ⟨rfl, id⟩)
  | resize area =>
    rw [← Option.some.inj hstep]
    exact h.quiet s.ix_status s.now (.inl (List.mem_append_right _ (List.mem_singleton_self _)))
  | event e =>
    rw [← Option.some.inj hstep]
    exact h.quiet s.ix_status s.now (.inr ⟨rfl, List.mem_append_left _⟩)

/-- `run_app` when it starts, with sessions that nobody has written to. -/
structure Starts (s : Loop F) : Prop where
  place : s.place = .Top
  last_draw : s.last_draw = none
  fresh : ∀ ip l, s.sessions.lookup ip = some l → l.render_generation = 0

/-- The invariant holds at the start. -/
theorem inv_of_starts (h : s.Starts) : Inv arith s.ui.replayEvents 0 s := by
  constructor
  case counted =>
    intro ip l hl
    rw [h.fresh ip l hl]
    exact le_rfl
  case replayEvents => rfl
  case measured =>
    intro fingerprint hdraw
    rw [h.place] at hdraw
    cases hdraw
  case shown =>
    intro _ fingerprint hlast
    rw [h.last_draw] at hlast
    cases hlast

/-- The invariant holds after any number of steps that a generation can count. -/
theorem inv_run [DecidableEq F] (h : s.Starts) {actions : List (Action F)}
    (hrun : Runs.run (step arith extract) s actions = some t) (hlength : actions.length < 2^64) :
    Inv arith s.ui.replayEvents actions.length t := by
  refine Runs.run_induction (fun actions t => actions.length < 2^64 → Inv arith s.ui.replayEvents actions.length t)
    (fun _ => inv_of_starts h) ?_ actions t hrun hlength
  intro as x a x' _ hx hstep hlen
  rw [List.length_append, List.length_singleton] at hlen ⊢
  exact (hx (by omega)).step hlen hstep

/-- In every run of the loop with the tasks beside it, of fewer than `2^64` steps: whenever a pass has drawn, or has not
drawn because of the fingerprint, the screen shows what drawing shows then, the clock aside, unless a new size of the
terminal waits to be handled. -/
theorem screen_current [DecidableEq F] (arith : ReplayArith F)
    (extract : KeyMap IpAddr SessionLock → List IpAddr → List TargetInfo) {s₀ : Loop F} (hstart : s₀.Starts)
    {actions : List (Action F)} (hlength : actions.length + 1 < 2^64)
    (hrun : Runs.run (step arith extract) s₀ actions = some s) {a : Action F} (hpass : a.isPass = true)
    (hstep : s.step arith extract a = some t) (hinput : t.place = .Input) (hresize : Event.Resize ∉ t.events) :
    t.screen = some t.frame := by
  have hinv : Inv arith s₀.ui.replayEvents actions.length s := inv_run hstart hrun (by omega)
  cases a with
  | top polled =>
    rw [step] at hstep
    split at hstep
    case h_1 hplace =>
      obtain rfl := Option.some.inj hstep
      unfold compare at hinput hresize ⊢
      split_ifs at hinput hresize ⊢ with hsame
      obtain ⟨frame, hscreen, hframe, -, harea⟩ := hinv.exists_frame hplace hlength (prepared_prepare s polled) hsame
      rw [harea.resolve_left hresize] at hframe
      exact hscreen.trans (congrArg some hframe)
    case h_2 => cases hstep
  | draw =>
    rw [step] at hstep
    split at hstep
    case h_1 =>
      obtain rfl := Option.some.inj hstep
      rfl
    case h_2 => cases hstep
  | input => cases hpass
  | write ip f => cases hpass
  | addSession ip session => cases hpass
  | ixStatus status => cases hpass
  | elapse nanos => cases hpass
  | resize area => cases hpass
  | event e => cases hpass

/-- One target in live mode. -/
def sampleLoop : Loop ℚ where
  place := .Top
  ui :=
    { Ttl.UiState.default with
      settings := ⟨0, 0, 0, .Auto, [], 0, true⟩
      status_message := none
      theme_index := 0
      display_mode := .Auto
      update_available := none
      update_rx := false
      replay_state := none
      target_list_cache := none
      target_list_tick := 0 }
  targets := [Playback.sampleLoaded.target]
  sessions := (∅ : KeyMap IpAddr SessionLock).insert Playback.sampleLoaded.target (.new Playback.sampleLoaded)
  ix_status := none
  cache_status := none
  now := 0
  area := (80, 24)
  events := []
  last_draw := none
  screen := none

/-- A pass in which no poll finds anything. -/
def samplePass : Action ℚ := .top ⟨⟨id, fun _ => rfl⟩, none, .Empty⟩

/-- A write between the comparison and the drawing is drawn at once, and again in the next pass. The one after it draws
nothing. -/
theorem screen_current_sample : ∃ s t,
    Runs.run (step Playback.exactArith fun _ _ => []) sampleLoop
      [samplePass, .write Playback.sampleLoaded.target (fun x => { x with paused := true }), .draw, .input, samplePass,
        .draw, .input] = some s ∧
      s.step Playback.exactArith (fun _ _ => []) samplePass = some t ∧ t.screen = some t.frame := by
  have hstart : sampleLoop.Starts := by
    refine ⟨rfl, rfl, fun ip l hl => ?_⟩
    rw [sampleLoop, KeyMap.lookup_insert] at hl
    split_ifs at hl
    · rw [← Option.some.inj hl]
      rfl
    · cases hl
  obtain ⟨t, hrun, hinput, hevents⟩ :
      ∃ t, Runs.run (step Playback.exactArith fun _ _ => []) sampleLoop
        ([samplePass, .write Playback.sampleLoaded.target (fun x => { x with paused := true }), .draw, .input, samplePass,
          .draw, .input] ++ [samplePass]) = some t ∧ t.place = .Input ∧ t.events.length = 0 :=
    Runs.exists_run (fun t : Loop ℚ => t.place = .Input ∧ t.events.length = 0) (by decide)
  obtain ⟨s, hs, hstep⟩ := Runs.run_snoc_eq_some.mp hrun
  have hresize : Event.Resize ∉ t.events := by
    rw [List.length_eq_zero_iff.mp hevents]
    exact List.not_mem_nil
  exact ⟨s, t, hs, hstep, screen_current _ _ hstart (by decide) hs rfl hstep hinput hresize⟩

end Loop

end Redraw

end Ttl
