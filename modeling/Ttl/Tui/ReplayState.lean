import Ttl.State.Replay
import Mathlib.Data.Rat.Floor

/-!
# Animated replay

`ReplayState` of `src/tui/app.rs` with its seven handlers: the tick that applies the events whose time has
come, pause and resume, the speed, the seeks and the two jumps. Each of them moves the index, the clock and
the session by itself. Whatever is done, and whenever, the session is what a fold of the first
`current_index` events makes of a fresh one (`replay_path_independent`).

The clock is computed in `f32` and `f64`. Nothing depends on the results, so the arithmetic is a parameter.
-/

namespace Ttl

/-- The floating-point arithmetic of the clock, over the type `F` of the speeds. -/
structure ReplayArith (F : Type) where
  /-- `speed.max(0.1)`. -/
  atLeastTenth : F → F
  /-- Elapsed wall time times the speed, in milliseconds. -/
  adjusted : ℕ → F → ℕ
  /-- `replay_wall_offset`: milliseconds of the replay as wall time. -/
  wallOffset : ℕ → F → ℕ
  /-- `(speed + delta).clamp(0.1, 1000.0)`. -/
  adjust : F → F → F

/-- `ReplayState`. -/
structure ReplayState (F : Type) where
  events : List ProbeEvent
  current_index : ℕ
  replay_started_at : ℕ
  speed_multiplier : F
  paused : Bool
  finished : Bool
  paused_at_elapsed_ms : ℕ

namespace ReplayState

variable {F : Type}

/-- `ReplayState::new`, at the time `now`, with the stable sort by the events' offsets. -/
def new (arith : ReplayArith F) (events : List ProbeEvent) (speed : F) (now : ℕ) : ReplayState F where
  events := events.mergeSort fun a b => a.offset_ms ≤ b.offset_ms
  current_index := 0
  replay_started_at := now
  speed_multiplier := arith.atLeastTenth speed
  paused := false
  finished := false
  paused_at_elapsed_ms := 0

/-- The offset of the last event. -/
def totalDuration (r : ReplayState F) : ℕ := (r.events.getLast?.map ProbeEvent.offset_ms).getD 0

/-- `replay_current_ms`. -/
def currentMs (arith : ReplayArith F) (now : ℕ) (r : ReplayState F) : ℕ :=
  if r.paused then r.paused_at_elapsed_ms
  else if r.finished then r.totalDuration
  else arith.adjusted (now - r.replay_started_at) r.speed_multiplier

/-- `rebase_replay_start`. An instant before the clock's start is `now` instead. -/
def rebaseStart (arith : ReplayArith F) (now : ℕ) (r : ReplayState F) (replay_ms : ℕ) : ReplayState F :=
  let offset := arith.wallOffset replay_ms r.speed_multiplier
  { r with replay_started_at := if offset ≤ now then now - offset else now }

/-- `toggle_replay_pause`. -/
def togglePause (arith : ReplayArith F) (now : ℕ) (r : ReplayState F) : ReplayState F :=
  if r.paused then { r.rebaseStart arith now r.paused_at_elapsed_ms with paused := false }
  else { r with paused_at_elapsed_ms := r.currentMs arith now, paused := true }

/-- `adjust_replay_speed`, which keeps the position. -/
def adjustSpeed (arith : ReplayArith F) (now : ℕ) (r : ReplayState F) (delta : F) : ReplayState F :=
  let current_ms := r.currentMs arith now
  let r := { r with speed_multiplier := arith.adjust r.speed_multiplier delta }
  if r.paused then r else r.rebaseStart arith now current_ms

/-- `replay_event_index_for_time`: the start for the time 0, and otherwise the partition point of the
sorted events. -/
def eventIndexForTime (events : List ProbeEvent) (target_ms : ℕ) : ℕ :=
  if target_ms = 0 then 0 else (events.takeWhile fun e => e.offset_ms ≤ target_ms).length

/-- `replay_target_ms_from_delta`, saturating in `u64`. -/
def targetMsFromDelta (current_ms : ℕ) (delta_ms : ℤ) : ℕ :=
  if 0 ≤ delta_ms then min (current_ms + delta_ms.toNat) (2^64 - 1) else current_ms - delta_ms.natAbs

/-- The loop of the tick over the events that are not yet applied. -/
def advance (adjusted_elapsed : ℕ) : List ProbeEvent → ℕ → ℕ
  | [], last => last
  | e :: rest, last =>
    if e.offset_ms ≤ adjusted_elapsed then advance adjusted_elapsed rest (last + 1) else last

end ReplayState

/-- The replay with the sessions that it fills. -/
structure Playback (F : Type) where
  replay : ReplayState F
  sessions : KeyMap IpAddr Session

namespace Playback

open ReplayState

variable {F : Type}

/-- `run_replay_mode` of a loaded session: a fresh one of the same target and configuration, and its
events. -/
def start (arith : ReplayArith F) (loaded : Session) (speed : F) (now : ℕ) : Playback F where
  replay := ReplayState.new arith loaded.events speed now
  sessions := (∅ : KeyMap IpAddr Session).insert loaded.target
    (Session.new loaded.target loaded.config now)

/-- The events `first..last` are applied to the session of the target, when there is one. -/
def applyEvents (p : Playback F) (target_ip : IpAddr) (first last : ℕ) : KeyMap IpAddr Session :=
  KeyMap.modify p.sessions target_ip
    (((p.replay.events.take last).drop first).foldl Session.applyReplayEvent)

/-- The tick of `run_app`. -/
def tick (arith : ReplayArith F) (target_ip : IpAddr) (now : ℕ) (p : Playback F) : Playback F :=
  if p.replay.paused || p.replay.finished then p
  else
    let first := p.replay.current_index
    let last := advance (p.replay.currentMs arith now) (p.replay.events.drop first) first
    { replay :=
        { p.replay with
          current_index := if first < last then last else first
          finished := p.replay.events.length ≤ (if first < last then last else first) }
      sessions := if first < last then p.applyEvents target_ip first last else p.sessions }

/-- The replay rests at an index and a time. -/
def rest (r : ReplayState F) (target_index target_ms : ℕ) : ReplayState F :=
  { r with
    paused := true
    paused_at_elapsed_ms := target_ms
    finished := r.events.length ≤ target_index
    current_index := target_index }

/-- `seek_replay_to`, which rebuilds the session when it goes back. -/
def seekTo (target_ip : IpAddr) (now : ℕ) (p : Playback F) (target_ms : ℕ) : Playback F :=
  let target_ms := min target_ms p.replay.totalDuration
  let target_index := eventIndexForTime p.replay.events target_ms
  let sessions :=
    if target_index = p.replay.current_index then p.sessions
    else if target_index ≤ p.replay.current_index then
      KeyMap.modify p.sessions target_ip fun session =>
        (p.replay.events.take target_index).foldl Session.applyReplayEvent
          (Session.new session.target session.config now)
    else p.applyEvents target_ip p.replay.current_index target_index
  ⟨rest p.replay target_index target_ms, sessions⟩

/-- `seek_replay_to_end`. -/
def seekToEnd (target_ip : IpAddr) (p : Playback F) : Playback F :=
  let target_index := p.replay.events.length
  let sessions :=
    if p.replay.current_index < target_index then
      p.applyEvents target_ip p.replay.current_index target_index
    else p.sessions
  ⟨rest p.replay target_index p.replay.totalDuration, sessions⟩

/-- `seek_replay`. -/
def seek (arith : ReplayArith F) (target_ip : IpAddr) (now : ℕ) (p : Playback F) (delta_ms : ℤ) :
    Playback F :=
  p.seekTo target_ip now (targetMsFromDelta (p.replay.currentMs arith now) delta_ms)

/-- What a tick or a key does. `Home` seeks to the time 0. -/
inductive Control (F : Type) where
  | tick
  | togglePause
  | adjustSpeed (delta : F)
  | seek (delta_ms : ℤ)
  | seekTo (target_ms : ℕ)
  | seekToEnd

/-- One control, at the time `now`. -/
def control (arith : ReplayArith F) (target_ip : IpAddr) (p : Playback F) (now : ℕ) :
    Control F → Playback F
  | .tick => p.tick arith target_ip now
  | .togglePause => { p with replay := p.replay.togglePause arith now }
  | .adjustSpeed delta => { p with replay := p.replay.adjustSpeed arith now delta }
  | .seek delta_ms => p.seek arith target_ip now delta_ms
  | .seekTo target_ms => p.seekTo target_ip now target_ms
  | .seekToEnd => p.seekToEnd target_ip

/-- Controls at their times. -/
def play (arith : ReplayArith F) (target_ip : IpAddr) (p : Playback F)
    (controls : List (ℕ × Control F)) : Playback F :=
  controls.foldl (fun p c => p.control arith target_ip c.1 c.2) p

/-! ## The index and the session move together -/

/-- The replay is at `current_index` of the given events: the session of `t` is a fresh one of the given
configuration with the events up to there applied. -/
structure At (p : Playback F) (t : IpAddr) (config : Config) (events : List ProbeEvent) : Prop where
  events_eq : p.replay.events = events
  index_le : p.replay.current_index ≤ events.length
  session : ∃ started, p.sessions.lookup t = some
    ((events.take p.replay.current_index).foldl Session.applyReplayEvent (Session.new t config started))

variable {arith : ReplayArith F} {p : Playback F} {t : IpAddr} {config : Config}
  {events : List ProbeEvent}

/-- A prefix, and what follows it up to a longer one. -/
theorem foldl_take_drop {first last : ℕ} (h : first ≤ last) (x : Session) :
    ((events.take last).drop first).foldl Session.applyReplayEvent
        ((events.take first).foldl Session.applyReplayEvent x) =
      (events.take last).foldl Session.applyReplayEvent x := by
  have htake : events.take first = (events.take last).take first := by
    rw [List.take_take, Nat.min_eq_left h]
  rw [htake, ← List.foldl_append, List.take_append_drop]

/-- A replayed event keeps the target and the configuration. -/
theorem foldl_frame (l : List ProbeEvent) (x : Session) :
    (l.foldl Session.applyReplayEvent x).target = x.target ∧
      (l.foldl Session.applyReplayEvent x).config = x.config := by
  induction l generalizing x with
  | nil => exact ⟨rfl, rfl⟩
  | cons e l ih =>
    obtain ⟨htarget, hconfig⟩ := ih (x.applyReplayEvent e)
    obtain ⟨htarget', hconfig', -⟩ := Session.applyReplayEvent_frame x e
    exact ⟨htarget.trans htarget', hconfig.trans hconfig'⟩

/-- The tick's loop ends where it starts or later, and within the events. -/
theorem advance_bounds (adjusted_elapsed : ℕ) (l : List ProbeEvent) (last : ℕ) :
    last ≤ advance adjusted_elapsed l last ∧ advance adjusted_elapsed l last ≤ last + l.length := by
  induction l generalizing last with
  | nil => exact ⟨le_rfl, le_rfl⟩
  | cons e l ih =>
    have hrest := ih (last + 1)
    rw [advance, List.length_cons]
    split_ifs <;> omega

/-- A time is in the events, or at one of their ends. -/
theorem eventIndexForTime_le (target_ms : ℕ) : eventIndexForTime events target_ms ≤ events.length := by
  unfold eventIndexForTime
  split_ifs
  · exact Nat.zero_le _
  · exact (List.takeWhile_prefix _).length_le

/-- A change of the clock moves nothing. -/
theorem At.clock (h : p.At t config events) {r : ReplayState F} (hevents : r.events = p.replay.events)
    (hindex : r.current_index = p.replay.current_index) :
    Playback.At { p with replay := r } t config events := by
  obtain ⟨hevents', hle, hsession⟩ := h
  refine ⟨hevents.trans hevents', ?_, ?_⟩
  · rw [hindex]
    exact hle
  · rw [hindex]
    exact hsession

/-- An advance of the index with the events up to there applied. -/
theorem At.forward (h : p.At t config events) {r : ReplayState F} (hevents : r.events = events)
    (hindex : p.replay.current_index ≤ r.current_index) (hle : r.current_index ≤ events.length) :
    Playback.At ⟨r, p.applyEvents t p.replay.current_index r.current_index⟩ t config events := by
  obtain ⟨hevents', -, started, hsession⟩ := h
  refine ⟨hevents, hle, started, ?_⟩
  rw [applyEvents, KeyMap.lookup_modify, if_pos rfl, hsession, Option.map_some, hevents',
    foldl_take_drop hindex]

/-- A tick leaves the replay at its index. -/
theorem At.tick (h : p.At t config events) (now : ℕ) : (p.tick arith t now).At t config events := by
  unfold Playback.tick
  split_ifs with hrun
  · exact h
  obtain ⟨hfirst, hlast⟩ := advance_bounds (p.replay.currentMs arith now)
    (p.replay.events.drop p.replay.current_index) p.replay.current_index
  rw [List.length_drop, h.events_eq] at hlast
  have hle := h.index_le
  dsimp only
  split_ifs with hmoved
  · refine h.forward h.events_eq hfirst ?_
    dsimp only
    rw [h.events_eq]
    omega
  · exact h.clock rfl rfl

/-- A pause leaves the replay at its index. -/
theorem At.togglePause (h : p.At t config events) (now : ℕ) :
    Playback.At { p with replay := p.replay.togglePause arith now } t config events := by
  unfold ReplayState.togglePause
  split_ifs
  · exact h.clock rfl rfl
  · exact h.clock rfl rfl

/-- Another speed leaves the replay at its index. -/
theorem At.adjustSpeed (h : p.At t config events) (now : ℕ) (delta : F) :
    Playback.At { p with replay := p.replay.adjustSpeed arith now delta } t config events := by
  unfold ReplayState.adjustSpeed
  dsimp only
  split_ifs
  · exact h.clock rfl rfl
  · exact h.clock rfl rfl

/-- A seek, forwards or back, brings the replay to its index. -/
theorem At.seekTo (h : p.At t config events) (now target_ms : ℕ) :
    (p.seekTo t now target_ms).At t config events := by
  unfold Playback.seekTo
  have hindex := @eventIndexForTime_le p.replay.events (min target_ms p.replay.totalDuration)
  rw [h.events_eq] at hindex
  dsimp only
  rw [h.events_eq]
  split_ifs with hsame hback
  · rw [hsame]
    exact h.clock rfl rfl
  · -- A seek back folds the prefix over a session that starts now.
    obtain ⟨hevents, -, started, hsession⟩ := h
    obtain ⟨htarget, hconfig⟩ := foldl_frame (events.take p.replay.current_index)
      (Session.new t config started)
    refine ⟨hevents, hindex, now, ?_⟩
    rw [KeyMap.lookup_modify, if_pos rfl, hsession, Option.map_some, htarget, hconfig]
    rfl
  · exact h.forward h.events_eq (Nat.le_of_not_le hback) hindex

/-- The seek to the end brings the replay to its index. -/
theorem At.seekToEnd (h : p.At t config events) : (p.seekToEnd t).At t config events := by
  unfold Playback.seekToEnd
  have hle := h.index_le
  dsimp only
  rw [h.events_eq]
  split_ifs with hmore
  · exact h.forward h.events_eq hle le_rfl
  · have hindex : events.length = p.replay.current_index := by omega
    rw [hindex]
    exact h.clock rfl rfl

/-- Every control keeps the index and the session together. -/
theorem At.control (h : p.At t config events) (now : ℕ) (c : Control F) :
    (p.control arith t now c).At t config events := by
  cases c with
  | tick => exact h.tick now
  | togglePause => exact h.togglePause now
  | adjustSpeed delta => exact h.adjustSpeed now delta
  | seek delta_ms => exact h.seekTo now _
  | seekTo target_ms => exact h.seekTo now target_ms
  | seekToEnd => exact h.seekToEnd

/-- So does every sequence of controls. -/
theorem At.play (h : p.At t config events) (controls : List (ℕ × Control F)) :
    (p.play arith t controls).At t config events := by
  induction controls generalizing p with
  | nil => exact h
  | cons c controls ih => exact ih (h.control c.1 c.2)

/-- A replay starts before its first event. -/
theorem at_start (loaded : Session) (speed : F) (now : ℕ) :
    (start arith loaded speed now).At loaded.target loaded.config
      (loaded.events.mergeSort fun a b => a.offset_ms ≤ b.offset_ms) := by
  refine ⟨rfl, Nat.zero_le _, now, ?_⟩
  rw [start, KeyMap.lookup_insert, if_pos rfl]
  rfl

end Playback

/-! ## What a replayed session does not depend on -/

namespace Session

/-- Two sessions of one target and configuration with the same counters and the same destination. -/
structure SameCounters (x y : Session) : Prop where
  target : x.target = y.target
  config : x.config = y.config
  hops : x.hops = y.hops
  complete : x.complete = y.complete
  dest_ttl : x.dest_ttl = y.dest_ttl
  total_sent : x.total_sent = y.total_sent

variable {x y : Session}

/-- What a replayed event does depends on these, and only these change. -/
theorem SameCounters.applyReplayEvent (h : x.SameCounters y) (e : ProbeEvent) :
    (x.applyReplayEvent e).SameCounters (y.applyReplayEvent e) := by
  obtain ⟨target, started, hops, config, complete, dest_ttl, total_sent, paused, pmtud, events⟩ := x
  obtain ⟨htarget, hconfig, hhops, hcomplete, hdest, hsent⟩ := h
  dsimp only at htarget hconfig hhops hcomplete hdest hsent
  subst htarget hconfig hhops hcomplete hdest hsent
  have hhop : ∀ ttl, (Session.mk y.target started y.hops y.config y.complete y.dest_ttl y.total_sent
      paused pmtud events).hop ttl = y.hop ttl := fun _ => rfl
  unfold Session.applyReplayEvent
  rw [hhop]
  split_ifs
  · exact ⟨rfl, rfl, rfl, rfl, rfl, rfl⟩
  · cases e.outcome with
    | Reply addr rtt_us =>
      simp only [hopMut_target]
      split_ifs <;> exact ⟨rfl, rfl, rfl, rfl, rfl, rfl⟩
    | Timeout => exact ⟨rfl, rfl, rfl, rfl, rfl, rfl⟩
    | LateReply addr rtt_us => exact ⟨rfl, rfl, rfl, rfl, rfl, rfl⟩

/-- Sessions with the same counters have the same ones after the same events. -/
theorem SameCounters.foldl (h : x.SameCounters y) (l : List ProbeEvent) :
    (l.foldl Session.applyReplayEvent x).SameCounters (l.foldl Session.applyReplayEvent y) := by
  induction l generalizing x y with
  | nil => exact h
  | cons e l ih => exact ih (h.applyReplayEvent e)

/-- A fresh session, and one with a hop for each TTL that is reset. -/
theorem sameCounters_resetStats (hops : x.hops.map Hop.ttl = ttls x.config.max_ttl) (started now : ℕ) :
    (new x.target x.config started).SameCounters (x.resetStats now) := by
  refine ⟨rfl, rfl, ?_, rfl, rfl, rfl⟩
  show (ttls x.config.max_ttl).map Hop.new = x.hops.map Hop.reset
  rw [← hops, List.map_map]
  rfl

end Session

namespace Playback

variable {F : Type} {arith : ReplayArith F}

/-- Whatever the loaded session and its events, and whatever the controls and their times, the index is
within the events, and the session has the counters and the destination of a reset one to which the events
up to the index are applied. Where two sequences of controls end at the same index, they end with the same
counters and the same destination. -/
theorem replay_path_independent (loaded : Session)
    (hops : loaded.hops.map Hop.ttl = Session.ttls loaded.config.max_ttl) (speed : F) (now : ℕ)
    (controls : List (ℕ × Control F)) :
    let p := (start arith loaded speed now).play arith loaded.target controls
    let events := loaded.events.mergeSort fun a b => a.offset_ms ≤ b.offset_ms
    p.replay.current_index ≤ loaded.events.length ∧
      ∃ x, p.sessions.lookup loaded.target = some x ∧
        (∀ time, x.SameCounters ((events.take p.replay.current_index).foldl Session.applyReplayEvent
          (loaded.resetStats time))) ∧
        ∀ speed' now' controls',
          let p' := (start arith loaded speed' now').play arith loaded.target controls'
          p'.replay.current_index = p.replay.current_index →
            ∃ x', p'.sessions.lookup loaded.target = some x' ∧ x.SameCounters x' := by
  intro p events
  have hat : ∀ speed now controls,
      ((start arith loaded speed now).play arith loaded.target controls).At loaded.target loaded.config
        events := fun speed now controls => (at_start loaded speed now).play controls
  obtain ⟨-, hle, started, hsession⟩ := hat speed now controls
  refine ⟨hle.trans_eq (List.length_mergeSort _), _, hsession, fun time => ?_, ?_⟩
  · exact (Session.sameCounters_resetStats hops started time).foldl _
  · intro speed' now' controls' p' hindex
    obtain ⟨-, -, started', hsession'⟩ := hat speed' now' controls'
    refine ⟨_, hsession', ?_⟩
    -- Both are folds of the same events, over sessions that differ in their start alone.
    have hfresh : (Session.new loaded.target loaded.config started).SameCounters
        (Session.new loaded.target loaded.config started') := ⟨rfl, rfl, rfl, rfl, rfl, rfl⟩
    have hsame : ((start arith loaded speed' now').play arith loaded.target controls').replay.current_index =
        ((start arith loaded speed now).play arith loaded.target controls).replay.current_index := hindex
    rw [hsame]
    exact hfresh.foldl _

/-- The clock without rounding, up to the conversions to integers. -/
def exactArith : ReplayArith ℚ where
  atLeastTenth speed := max speed (1 / 10)
  adjusted elapsed speed := ⌊(elapsed : ℚ) / 10^6 * speed⌋₊
  wallOffset replay_ms speed := ⌊(replay_ms : ℚ) / max speed (1 / 10)⌋₊ * 10^6
  adjust speed delta := max (1 / 10) (min (speed + delta) 1000)

/-- A loaded session of two TTLs, with two events out of order. -/
def sampleLoaded : Session :=
  { Session.new (.V4 ⟨192, 0, 2, 1⟩) ⟨some 1, 10^9, 2, 3 * 10^9, .Icmp, 1, 50000, false, false⟩ 0 with
    events := [⟨100, 2, 0, 0, .Reply (.V4 ⟨192, 0, 2, 1⟩) 20⟩, ⟨50, 1, 0, 0, .Timeout⟩] }

/-- Play for a while, jump to the end, and go back a little at another speed. -/
def sampleControls : List (ℕ × Control ℚ) :=
  [(60 * 10^6, .tick), (70 * 10^6, .seekToEnd), (80 * 10^6, .adjustSpeed (1 / 2)),
    (90 * 10^6, .seek (-40)), (95 * 10^6, .togglePause), (99 * 10^6, .tick)]

/-- Such a replay. -/
theorem replay_path_independent_sample :
    let p := (start exactArith sampleLoaded 1 0).play exactArith sampleLoaded.target sampleControls
    p.replay.current_index ≤ 2 ∧
      ∃ x, p.sessions.lookup sampleLoaded.target = some x ∧
        ∀ time, x.SameCounters
          (((sampleLoaded.events.mergeSort fun a b => a.offset_ms ≤ b.offset_ms).take
            p.replay.current_index).foldl Session.applyReplayEvent (sampleLoaded.resetStats time)) := by
  have h := @replay_path_independent ℚ exactArith sampleLoaded rfl 1 0 sampleControls
  obtain ⟨hle, x, hx, hsame, -⟩ := h
  exact ⟨hle, x, hx, hsame⟩

end Playback

end Ttl
