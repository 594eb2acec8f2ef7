import Ttl.Tui.ReplayState
import Ttl.Trace.Frames

/-!
# A reset during a replay

The key `r` resets the session's statistics and leaves the replay's index where it is, so that the events before the
index are gone and do not come back (`At.reset_iff`). A reset is harmless exactly where none of them is at a TTL with a
hop, which in a recording means at the first event (`at_pressAll_iff`, over keys in any order).
-/

namespace Ttl

/-- What an outcome counts for: one for a probe that is sent, and one for a response. -/
def ProbeOutcome.weight : ProbeOutcome → ℕ
  | .Reply _ _ => 2
  | .Timeout => 1
  | .LateReply _ _ => 1

/-- Every outcome counts for something. -/
theorem ProbeOutcome.weight_pos (o : ProbeOutcome) : 0 < o.weight := by
  cases o <;> exact Nat.succ_pos _

/-- The probes sent and the responses. -/
def Tally.activity (t : Tally) : ℕ := t.sent + t.received

/-- A replayed outcome raises the activity of its hop by its weight. -/
theorem Tally.activity_replay (t : Tally) (o : ProbeOutcome) : (o.replay t).activity = t.activity + o.weight := by
  cases o with
  | Reply addr rtt_us =>
    have hreply : (ProbeOutcome.replay t (.Reply addr rtt_us)).activity = t.sent + 1 + (t.received + 1) := rfl
    rw [hreply, activity, ProbeOutcome.weight]
    omega
  | Timeout =>
    have htimeout : (ProbeOutcome.replay t .Timeout).activity = t.sent + 1 + t.received := rfl
    rw [htimeout, activity, ProbeOutcome.weight]
    omega
  | LateReply addr rtt_us => exact (Nat.add_assoc _ _ _).symm

/-- The configuration has a hop for the TTL. -/
def Config.HasHop (config : Config) (ttl : UInt8) : Prop := ttl ≠ 0 ∧ ttl ≤ config.max_ttl

instance (config : Config) : DecidablePred config.HasHop := fun ttl =>
  inferInstanceAs (Decidable (ttl ≠ 0 ∧ ttl ≤ config.max_ttl))

namespace Session

/-- What events count for at the TTL `k`. -/
def weightAt (events : List ProbeEvent) (k : UInt8) : ℕ :=
  (events.map fun e => if k = e.ttl then e.outcome.weight else 0).sum

/-- What events count for is a sum. -/
theorem weightAt_append (events events' : List ProbeEvent) (k : UInt8) :
    weightAt (events ++ events') k = weightAt events k + weightAt events' k := by
  rw [weightAt, List.map_append, List.sum_append]
  rfl

/-- Where events count for nothing, none is at the TTL. -/
theorem weightAt_eq_zero {events : List ProbeEvent} {k : UInt8} (h : weightAt events k = 0) :
    ∀ e ∈ events, e.ttl ≠ k := by
  rintro e he rfl
  have hzero := List.sum_eq_zero_iff_forall_eq_nat.mp h _ (List.mem_map_of_mem he)
  rw [if_pos rfl] at hzero
  exact e.outcome.weight_pos.ne' hzero

/-- A fresh session has the hops of its configuration. -/
theorem isSome_hop_new (t : IpAddr) (config : Config) (started : ℕ) (ttl : UInt8) :
    ((new t config started).hop ttl).isSome ↔ config.HasHop ttl := by
  have hlength : (new t config started).hops.length = config.max_ttl.toNat := by simp [new, ttls]
  rw [isSome_hop, hlength, Config.HasHop, UInt8.le_iff_toNat_le]

/-- A replayed event adds no hop and removes none. -/
theorem isSome_hop_applyReplayEvent (x : Session) (e : ProbeEvent) (ttl : UInt8) :
    ((x.applyReplayEvent e).hop ttl).isSome ↔ (x.hop ttl).isSome := by
  rw [isSome_hop, isSome_hop, (applyReplayEvent_frame x e).2.2]

/-- Replayed events add up at the hop of every TTL. -/
theorem activity_foldl (events : List ProbeEvent) (x : Session) {k : UInt8} (hk : (x.hop k).isSome) :
    ((events.foldl applyReplayEvent x).tally k).activity = (x.tally k).activity + weightAt events k := by
  induction events generalizing x with
  | nil => rfl
  | cons e events ih =>
    have hstep : ((x.applyReplayEvent e).tally k).activity =
        (x.tally k).activity + if k = e.ttl then e.outcome.weight else 0 := by
      rw [tally_applyReplayEvent]
      by_cases hke : k = e.ttl
      · rw [if_pos ⟨hke ▸ hk, hke⟩, if_pos hke, Tally.activity_replay]
      · rw [if_neg fun h => hke h.2, if_neg hke, Nat.add_zero]
    calc ((events.foldl applyReplayEvent (x.applyReplayEvent e)).tally k).activity
      _ = ((x.applyReplayEvent e).tally k).activity + weightAt events k :=
        ih _ ((isSome_hop_applyReplayEvent x e k).mpr hk)
      _ = (x.tally k).activity + ((if k = e.ttl then e.outcome.weight else 0) + weightAt events k) := by
        rw [hstep, Nat.add_assoc]
      _ = (x.tally k).activity + weightAt (e :: events) k := by
        rw [weightAt, weightAt, List.map_cons, List.sum_cons]

/-- Events without a hop do nothing. -/
theorem foldl_eq_self {events : List ProbeEvent} {x : Session} (h : ∀ e ∈ events, (x.hop e.ttl).isNone) :
    events.foldl applyReplayEvent x = x := by
  induction events with
  | nil => rfl
  | cons e events ih =>
    obtain ⟨he, h⟩ := List.forall_mem_cons.mp h
    rw [List.foldl_cons, applyReplayEvent, if_pos he, ih h]

/-- What a replayed event leaves alone. -/
structure SameFrame (x y : Session) : Prop where
  target : x.target = y.target
  config : x.config = y.config
  paused : x.paused = y.paused
  pmtud : x.pmtud = y.pmtud
  ttls : x.hops.map Hop.ttl = y.hops.map Hop.ttl

/-- A replayed event leaves the frame of the session. -/
theorem sameFrame_applyReplayEvent (x : Session) (e : ProbeEvent) : (x.applyReplayEvent e).SameFrame x := by
  obtain ⟨htarget, hconfig, -⟩ := applyReplayEvent_frame x e
  have hrest : (x.applyReplayEvent e).paused = x.paused ∧ (x.applyReplayEvent e).pmtud = x.pmtud := by
    unfold applyReplayEvent
    split_ifs
    · exact ⟨rfl, rfl⟩
    · cases e.outcome with
      | Reply addr rtt_us =>
        dsimp only
        split_ifs <;> exact ⟨rfl, rfl⟩
      | Timeout => exact ⟨rfl, rfl⟩
      | LateReply addr rtt_us => exact ⟨rfl, rfl⟩
  exact ⟨htarget, hconfig, hrest.1, hrest.2, SessionOp.map_ttl_apply x (.replay e)⟩

/-- A frame that is left twice is left. -/
theorem SameFrame.trans {x y z : Session} (h : x.SameFrame y) (h' : y.SameFrame z) : x.SameFrame z :=
  ⟨h.target.trans h'.target, h.config.trans h'.config, h.paused.trans h'.paused, h.pmtud.trans h'.pmtud,
    h.ttls.trans h'.ttls⟩

/-- Replayed events leave the frame of the session. -/
theorem sameFrame_foldl (events : List ProbeEvent) (x : Session) :
    (events.foldl applyReplayEvent x).SameFrame x := by
  induction events generalizing x with
  | nil => exact ⟨rfl, rfl, rfl, rfl, rfl⟩
  | cons e events ih => exact (ih (x.applyReplayEvent e)).trans (sameFrame_applyReplayEvent x e)

/-- A reset makes a replayed session a fresh one. -/
theorem resetStats_foldl (events : List ProbeEvent) (t : IpAddr) (config : Config) (started now : ℕ) :
    (events.foldl applyReplayEvent (new t config started)).resetStats now = new t config now := by
  obtain ⟨htarget, hconfig, hpaused, hpmtud, httls⟩ := sameFrame_foldl events (new t config started)
  generalize events.foldl applyReplayEvent (new t config started) = x at *
  have hhops : x.hops.map Hop.reset = (new t config now).hops := by
    have hcomp : Hop.reset = Hop.new ∘ Hop.ttl := rfl
    have hnew : Hop.ttl ∘ Hop.new = id := rfl
    have hfresh : (new t config started).hops.map Hop.ttl = ttls config.max_ttl := by
      rw [new, List.map_map, hnew, List.map_id]
    rw [hcomp, ← List.map_map, httls, hfresh]
    rfl
  have hsearch : (x.pmtud.map fun _ => PmtudState.new x.target.isIpv6 x.config.jumbo) = (new t config now).pmtud := by
    rw [hpmtud, htarget, hconfig, new, new]
    dsimp only
    split_ifs <;> rfl
  rw [resetStats, hhops, hsearch, htarget, hconfig, hpaused]
  rfl

end Session

namespace Playback

variable {F : Type} {arith : ReplayArith F} {p : Playback F} {t : IpAddr} {config : Config} {events : List ProbeEvent}

/-- The key `r`, at the time `now`. -/
def reset (target_ip : IpAddr) (now : ℕ) (p : Playback F) : Playback F :=
  { p with sessions := KeyMap.modify p.sessions target_ip fun session => session.resetStats now }

/-- No event before the index is at a TTL with a hop. -/
def BeforeFirst (p : Playback F) (config : Config) : Prop :=
  ∀ e ∈ p.replay.events.take p.replay.current_index, ¬config.HasHop e.ttl

instance (p : Playback F) (config : Config) : Decidable (p.BeforeFirst config) :=
  inferInstanceAs (Decidable (∀ e ∈ p.replay.events.take p.replay.current_index, ¬config.HasHop e.ttl))

/-- After a reset the session is a fresh one. -/
theorem At.lookup_reset (h : p.At t config events) (now : ℕ) :
    (p.reset t now).sessions.lookup t = some (Session.new t config now) := by
  obtain ⟨-, -, started, hsession⟩ := h
  rw [reset, KeyMap.lookup_modify, if_pos rfl, hsession, Option.map_some, Session.resetStats_foldl]

/-- Events that do not count at any hop are not at a TTL with a hop. -/
theorem beforeFirst_of_weightAt (hevents : p.replay.events = events)
    (h : ∀ k, config.HasHop k → Session.weightAt (events.take p.replay.current_index) k = 0) :
    p.BeforeFirst config := by
  intro e he hhop
  rw [hevents] at he
  exact Session.weightAt_eq_zero (h e.ttl hhop) e he rfl

/-- **A reset keeps the session and the index together** exactly when no event before the index has a hop. -/
theorem At.reset_iff (h : p.At t config events) (now : ℕ) :
    (p.reset t now).At t config events ↔ p.BeforeFirst config := by
  have hlookup := h.lookup_reset now
  constructor
  · rintro ⟨-, -, started, hsession⟩
    -- The fold over the events before the index is fresh, so they count for nothing.
    rw [hlookup, Option.some.injEq] at hsession
    refine beforeFirst_of_weightAt h.events_eq fun k hk => ?_
    have hhop := (Session.isSome_hop_new t config started k).mpr hk
    have hsum := Session.activity_foldl (events.take p.replay.current_index) (Session.new t config started) hhop
    have hreset : (p.reset t now).replay.current_index = p.replay.current_index := rfl
    rw [hreset] at hsession
    rw [← hsession] at hsum
    have hfresh : (Session.new t config now).tally k = (Session.new t config started).tally k := rfl
    rw [hfresh] at hsum
    omega
  · intro hbefore
    refine ⟨h.events_eq, h.index_le, now, ?_⟩
    have hnone : ∀ e ∈ events.take p.replay.current_index, ((Session.new t config now).hop e.ttl).isNone := by
      intro e he
      rw [← h.events_eq] at he
      rw [← Option.not_isSome, Bool.not_eq_true', ← Bool.not_eq_true, Session.isSome_hop_new]
      exact hbefore e he
    exact hlookup.trans (congrArg some (Session.foldl_eq_self hnone).symm)

/-- The sessions of the target have the same counters and the same destination. -/
def SameSession (p q : Playback F) (t : IpAddr) : Prop :=
  ∃ x y, p.sessions.lookup t = some x ∧ q.sessions.lookup t = some y ∧ x.SameCounters y

/-- **A reset loses nothing at the end** exactly when no event before the index has a hop. -/
theorem At.reset_seekToEnd_iff (h : p.At t config events) (now : ℕ) :
    SameSession ((p.reset t now).seekToEnd t) (p.seekToEnd t) t ↔ p.BeforeFirst config := by
  have hfull := h.seekToEnd
  obtain ⟨hevents, -, started, hlookup⟩ := hfull
  have hindex : (p.seekToEnd t).replay.current_index = events.length := congrArg List.length h.events_eq
  rw [hindex, List.take_length] at hlookup
  constructor
  · rintro ⟨x, y, hx, hy, hsame⟩
    -- The jump applies what follows the index to a fresh session.
    have hrest : ((p.reset t now).seekToEnd t).sessions.lookup t =
        some ((events.drop p.replay.current_index).foldl Session.applyReplayEvent (Session.new t config now)) := by
      have hreset : (p.reset t now).replay = p.replay := rfl
      unfold Playback.seekToEnd
      dsimp only
      rw [hreset, h.events_eq]
      split_ifs with hmore
      · rw [applyEvents, KeyMap.lookup_modify, if_pos rfl, h.lookup_reset, hreset, h.events_eq, List.take_length]
        rfl
      · rw [h.lookup_reset, List.drop_eq_nil_of_le (not_lt.mp hmore)]
        rfl
    obtain rfl := Option.some.inj (hx.symm.trans hrest)
    obtain rfl := Option.some.inj (hy.symm.trans hlookup)
    refine beforeFirst_of_weightAt h.events_eq fun k hk => ?_
    have hhop := fun started => (Session.isSome_hop_new t config started k).mpr hk
    have hdrop := Session.activity_foldl (events.drop p.replay.current_index) _ (hhop now)
    have hall := Session.activity_foldl events _ (hhop started)
    have htally : ∀ {x y : Session}, x.hops = y.hops → x.tally k = y.tally k := by
      intro x y hhops
      unfold Session.tally Session.hop
      rw [hhops]
    have hfresh : (Session.new t config now).tally k = (Session.new t config started).tally k := rfl
    have hsplit := Session.weightAt_append (events.take p.replay.current_index) (events.drop p.replay.current_index) k
    rw [List.take_append_drop] at hsplit
    rw [htally hsame.hops, hfresh] at hdrop
    omega
  · intro hbefore
    obtain ⟨-, -, started', hlookup'⟩ := ((h.reset_iff now).mpr hbefore).seekToEnd
    have hindex' : ((p.reset t now).seekToEnd t).replay.current_index = events.length :=
      congrArg List.length h.events_eq
    rw [hindex', List.take_length] at hlookup'
    have hfresh : (Session.new t config started').SameCounters (Session.new t config started) :=
      ⟨rfl, rfl, rfl, rfl, rfl, rfl⟩
    exact ⟨_, _, hlookup', hlookup, hfresh.foldl events⟩

/-! ## Keys in any order -/

/-- A key: a control of the replay, or a reset. -/
inductive Key (F : Type) where
  | control (c : Control F)
  | reset

/-- One key, at the time `now`. -/
def press (arith : ReplayArith F) (target_ip : IpAddr) (p : Playback F) (now : ℕ) : Key F → Playback F
  | .control c => p.control arith target_ip now c
  | .reset => p.reset target_ip now

/-- Keys at their times. -/
def pressAll (arith : ReplayArith F) (target_ip : IpAddr) (p : Playback F) (keys : List (ℕ × Key F)) : Playback F :=
  keys.foldl (fun p k => p.press arith target_ip k.1 k.2) p

/-- After every one of the keys the session and the index are together, exactly when every reset among them comes
where no event before the index has a hop. -/
theorem at_pressAll_iff (h : p.At t config events) (keys : List (ℕ × Key F)) :
    (∀ n, (p.pressAll arith t (keys.take n)).At t config events) ↔
      ∀ n now, keys[n]? = some (now, .reset) → (p.pressAll arith t (keys.take n)).BeforeFirst config := by
  have hnext : ∀ n k, keys[n]? = some k → p.pressAll arith t (keys.take (n + 1)) =
      (p.pressAll arith t (keys.take n)).press arith t k.1 k.2 := by
    intro n k hk
    rw [List.take_add_one, hk, pressAll, List.foldl_append]
    rfl
  constructor
  · intro hall n now hreset
    have hafter := hall (n + 1)
    rw [hnext n _ hreset] at hafter
    exact ((hall n).reset_iff now).mp hafter
  · intro hresets n
    induction n with
    | zero => exact h
    | succ n ih =>
      cases hk : keys[n]? with
      | none =>
        rw [List.take_add_one, hk, Option.toList_none, List.append_nil]
        exact ih
      | some k =>
        obtain ⟨now, key⟩ := k
        rw [hnext n _ hk]
        cases key with
        | control c => exact ih.control now c
        | reset => exact (ih.reset_iff now).mpr (hresets n now hk)

/-- Whatever the loaded session and its events, and whatever the controls and their times: after a reset the session is
the fold of the events before the index over a fresh one, stays so under further controls, and at the end has the
counters of a replay without the reset, each of them exactly when no event before the index is at a TTL with a hop. -/
theorem reset_consistent_iff (arith : ReplayArith F) (loaded : Session) (speed : F) (now : ℕ)
    (controls : List (ℕ × Control F)) (time : ℕ) :
    let events := loaded.events.mergeSort fun a b => a.offset_ms ≤ b.offset_ms
    let p := (start arith loaded speed now).play arith loaded.target controls
    let q := p.reset loaded.target time
    (q.At loaded.target loaded.config events ↔ p.BeforeFirst loaded.config) ∧
      ((∀ controls', (q.play arith loaded.target controls').At loaded.target loaded.config events) ↔
        p.BeforeFirst loaded.config) ∧
      (SameSession (q.seekToEnd loaded.target) (p.seekToEnd loaded.target) loaded.target ↔
        p.BeforeFirst loaded.config) := by
  intro events p q
  have hp : p.At loaded.target loaded.config events := (at_start loaded speed now).play controls
  have hreset := hp.reset_iff time
  refine ⟨hreset, ?_, hp.reset_seekToEnd_iff time⟩
  constructor
  · intro hall
    exact hreset.mp (hall [])
  · intro hbefore controls'
    exact (hreset.mpr hbefore).play controls'

/-- A loaded session with a reply of the target. -/
def sampleReplied : Session :=
  { Session.new (.V4 ⟨192, 0, 2, 1⟩) ⟨some 1, 10^9, 2, 3 * 10^9, .Icmp, 1, 50000, false, false⟩ 0 with
    events := [⟨50, 2, 0, 0, .Reply (.V4 ⟨192, 0, 2, 1⟩) 20⟩] }

/-- At the end of its replay one probe is counted. After a reset none is, and a jump to the end brings none back. -/
theorem reset_loses_reply :
    let p := (start exactArith sampleReplied 1 0).play exactArith sampleReplied.target [(60 * 10^6, .seekToEnd)]
    let q := p.reset sampleReplied.target (70 * 10^6)
    (p.sessions.lookup sampleReplied.target).map Session.total_sent = some 1 ∧
      ((q.seekToEnd sampleReplied.target).sessions.lookup sampleReplied.target).map Session.total_sent = some 0 ∧
      ¬q.At sampleReplied.target sampleReplied.config sampleReplied.events := by
  have hsort : (sampleReplied.events.mergeSort fun a b => a.offset_ms ≤ b.offset_ms) = sampleReplied.events :=
    List.mergeSort_singleton _
  intro p q
  have hp : p.At sampleReplied.target sampleReplied.config sampleReplied.events := by
    have hstart : (start exactArith sampleReplied 1 0).At sampleReplied.target sampleReplied.config
        sampleReplied.events := hsort ▸ at_start sampleReplied 1 0
    exact hstart.play [(60 * 10^6, .seekToEnd)]
  have hindex : p.replay.current_index = 1 := congrArg List.length hsort
  have hq : (q.sessions.lookup sampleReplied.target) = some (Session.new _ _ _) := hp.lookup_reset (70 * 10^6)
  refine ⟨?_, ?_, ?_⟩
  · obtain ⟨-, -, started, hsession⟩ := hp
    rw [hsession, hindex]
    rfl
  · have hdone : ¬q.replay.current_index < q.replay.events.length := by
      have hlength : q.replay.events.length = 1 := congrArg List.length hsort
      have hsame : q.replay.current_index = 1 := hindex
      omega
    rw [seekToEnd, if_neg hdone, hq]
    rfl
  · rw [hp.reset_iff, BeforeFirst, hp.events_eq, hindex]
    decide

end Playback

end Ttl
