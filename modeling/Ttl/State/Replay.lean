import Ttl.State.Tally

/-!
# Replay

The fold of `applyReplayEvent` over a session's recorded events (`replay`), against the session itself.
A replayed tally counts a probe as sent when its outcome was recorded, takes RTTs in whole
microseconds, and counts a late reply as a response. `Tally.ReplayOf` relates it to the live tally that
the events were recorded beside, with a lemma for each event that may be recorded.

`Mirrored` and `DestMirrored` say of a session that its tallies and its destination are so related to
those of its replay, each with a lemma for an update that records an event and one for an update that
records none.
-/

namespace Ttl

/-! ## Rounded responses -/

/-- The RTTs of a summary, rounded down to microseconds one by one. -/
structure RttSummary.RoundsTo (live replayed : RttSummary) : Prop where
  received : replayed.received = live.received
  min_rtt : replayed.min_rtt ≤ live.min_rtt ∧ live.min_rtt < replayed.min_rtt + 1000
  max_rtt : replayed.max_rtt ≤ live.max_rtt ∧ live.max_rtt < replayed.max_rtt + 1000

namespace RttSummary

/-- An empty summary is a replay of one. -/
theorem roundsTo_empty : empty.RoundsTo empty :=
  ⟨rfl, ⟨le_rfl, by omega⟩, le_rfl, by omega⟩

/-- What `as_micros` and `from_micros` leave of a duration. -/
theorem fromMicros_asMicros (rtt : ℕ) :
    fromMicros (asMicros rtt) ≤ rtt ∧ rtt < fromMicros (asMicros rtt) + 1000 := by
  unfold fromMicros asMicros
  omega

/-- A round-trip time is replayed to the microsecond. -/
theorem RoundsTo.add {live replayed : RttSummary} (h : live.RoundsTo replayed) (rtt : ℕ) :
    (live.add rtt).RoundsTo (replayed.add (fromMicros (asMicros rtt))) := by
  obtain ⟨hreceived, hmin, hmax⟩ := h
  have hround := fromMicros_asMicros rtt
  refine ⟨congrArg (· + 1) hreceived, ?_, ?_⟩
  · simp only [RttSummary.add]
    omega
  · simp only [RttSummary.add]
    omega

end RttSummary

/-! ## Replayed tallies -/

/-- A replayed tally against the live one, where late replies from the addresses `late` were
recorded. -/
structure Tally.ReplayOf (live replayed : Tally) (late : List IpAddr) : Prop where
  /-- Every probe with an outcome was sent. -/
  sent : replayed.sent + late.length = replayed.received + replayed.timeouts
  /-- The late replies are counted as responses. -/
  received : replayed.received = live.received + late.length
  /-- So they are for each address. -/
  responder : ∀ a, (replayed.responder a).received = (live.responder a).received + late.count a
  /-- The RTTs of an address without late replies are rounded. -/
  rtt : ∀ a, a ∉ late → (live.responder a).RoundsTo (replayed.responder a)

namespace Tally

/-- Nothing is the replay of nothing. -/
theorem replayOf_zero : zero.ReplayOf zero [] :=
  ⟨rfl, rfl, fun _ => rfl, fun _ _ => RttSummary.roundsTo_empty⟩

section

variable {live replayed : Tally} {late : List IpAddr}

/-- A probe is sent, of which no event tells. -/
theorem ReplayOf.liveSent (h : live.ReplayOf replayed late) : live.addSent.ReplayOf replayed late :=
  ⟨h.sent, h.received, h.responder, h.rtt⟩

/-- A probe is flushed, of which no event tells. -/
theorem ReplayOf.liveTimeout (h : live.ReplayOf replayed late) :
    live.addTimeout.ReplayOf replayed late :=
  ⟨h.sent, h.received, h.responder, h.rtt⟩

/-- A probe times out. -/
theorem ReplayOf.timeout (h : live.ReplayOf replayed late) :
    live.addTimeout.ReplayOf replayed.addSent.addTimeout late := by
  refine ⟨?_, h.received, h.responder, h.rtt⟩
  have hsent := h.sent
  simp only [addTimeout, addSent]
  omega

/-- A response arrives. -/
theorem ReplayOf.response (h : live.ReplayOf replayed late) (a : IpAddr) (rtt : ℕ) :
    (live.addResponse a rtt).ReplayOf
      (replayed.addSent.addResponse a (fromMicros (asMicros rtt))) late := by
  obtain ⟨hsent, hreceived, hresponder, hrtt⟩ := h
  refine ⟨?_, ?_, fun b => ?_, fun b hb => ?_⟩
  · simp only [addResponse, addSent]
    omega
  · simp only [addResponse, addSent]
    omega
  · have hb := hresponder b
    by_cases hab : b = a
    · subst hab
      simp only [addResponse, addSent, if_true, RttSummary.add]
      omega
    · simpa [addResponse, addSent, hab] using hb
  · by_cases hab : b = a
    · subst hab
      simpa [addResponse, addSent] using (hrtt b hb).add rtt
    · simpa [addResponse, addSent, hab] using hrtt b hb

/-- A late reply arrives. -/
theorem ReplayOf.lateReply (h : live.ReplayOf replayed late) (a : IpAddr) (rtt : ℕ) :
    live.ReplayOf (replayed.addResponse a rtt) (late ++ [a]) := by
  obtain ⟨hsent, hreceived, hresponder, hrtt⟩ := h
  refine ⟨?_, ?_, fun b => ?_, fun b hb => ?_⟩
  · simp only [addResponse, List.length_append, List.length_singleton]
    omega
  · simp only [addResponse, List.length_append, List.length_singleton]
    omega
  · have hb := hresponder b
    by_cases hab : b = a
    · subst hab
      simp only [addResponse, if_true, RttSummary.add, List.count_append, List.count_singleton_self]
      omega
    · simpa [addResponse, hab, List.count_append, List.count_singleton, Ne.symm hab] using hb
  · -- The RTTs of `a` are no longer those of its live responses, so only other addresses count.
    obtain ⟨hlate, hne⟩ : b ∉ late ∧ b ≠ a := by simpa using hb
    simpa [addResponse, hne] using hrtt b hlate

end

end Tally

/-- What an outcome counts for in a replay. -/
def ProbeOutcome.replay (t : Tally) : ProbeOutcome → Tally
  | .Reply addr rtt_us => t.addSent.addResponse addr (fromMicros rtt_us)
  | .Timeout => t.addSent.addTimeout
  | .LateReply addr rtt_us => t.addResponse addr (fromMicros rtt_us)

/-- The address of a late reply. -/
def ProbeOutcome.lateAddr : ProbeOutcome → Option IpAddr
  | .LateReply addr _ => some addr
  | _ => none

namespace Session

/-- The addresses of the late replies recorded at a TTL. -/
def late (x : Session) (k : UInt8) : List IpAddr :=
  x.events.filterMap fun e => if e.ttl = k then e.outcome.lateAddr else none

/-- The session that a replay of the recorded events makes of a fresh one of the same target and
configuration. -/
def replay (x : Session) : Session :=
  x.events.foldl applyReplayEvent (new x.target x.config x.started_instant)

/-- A replayed response is tallied as one. -/
@[simp]
theorem tally_replayResponse (s : Session) (event : ProbeEvent) (addr : IpAddr) (rtt : ℕ) (h : Hop) :
    (s.replayResponse event addr rtt h).tally = h.tally.addResponse addr rtt := by
  unfold replayResponse
  split_ifs <;> simp

/-- A replayed event counts at the hop of its TTL. -/
theorem tally_applyReplayEvent (s : Session) (event : ProbeEvent) (k : UInt8) :
    (s.applyReplayEvent event).tally k =
      if (s.hop event.ttl).isSome ∧ k = event.ttl then event.outcome.replay (s.tally k)
      else s.tally k := by
  unfold applyReplayEvent
  by_cases hhop : (s.hop event.ttl).isSome
  · have hnone : ¬ (s.hop event.ttl).isNone = true := by
      rw [← Option.not_isSome, hhop]
      exact Bool.false_ne_true
    rw [if_neg hnone]
    simp only [hhop, true_and]
    cases event.outcome with
    | Reply addr rtt_us =>
      -- Of the updates of a reply, only those of its hop touch a tally.
      have hupd := @tally_hopMut s event.ttl
        (fun h => s.replayResponse event addr (fromMicros rtt_us) h.recordSent)
        (fun t => t.addSent.addResponse addr (fromMicros rtt_us)) (by simp) hhop k
      have hmark : ∀ s' : Session,
          (if addr = s'.target then s'.markDestination event.ttl else s').addSent.tally k =
            s'.tally k := by
        intro s'
        split_ifs <;> simp
      dsimp only
      rw [hmark]
      exact hupd
    | Timeout =>
      have hupd := @tally_hopMut s event.ttl
        (fun h => (h.recordSent.recordTimeout).recordFlowTimeout event.flow_id)
        (fun t => t.addSent.addTimeout) (by simp) hhop k
      simpa [ProbeOutcome.replay] using hupd
    | LateReply addr rtt_us =>
      exact @tally_hopMut s event.ttl (s.replayResponse event addr (fromMicros rtt_us))
        (fun t => t.addResponse addr (fromMicros rtt_us)) (by simp) hhop k
  · -- An event beyond the configured TTLs is skipped.
    have hnone : (s.hop event.ttl).isNone = true := by simpa using hhop
    rw [if_pos hnone]
    simp [hhop]

/-- A replayed event keeps the target, the configuration and the number of hops. -/
theorem applyReplayEvent_frame (s : Session) (event : ProbeEvent) :
    (s.applyReplayEvent event).target = s.target ∧ (s.applyReplayEvent event).config = s.config ∧
      (s.applyReplayEvent event).hops.length = s.hops.length := by
  unfold applyReplayEvent
  split_ifs
  · exact ⟨rfl, rfl, rfl⟩
  · cases event.outcome with
    | Reply addr rtt_us =>
      dsimp only
      split_ifs <;> exact ⟨rfl, rfl, length_hopMut _ _ _⟩
    | Timeout => exact ⟨rfl, rfl, length_hopMut _ _ _⟩
    | LateReply addr rtt_us => exact ⟨rfl, rfl, length_hopMut _ _ _⟩

/-- A replay keeps the target, and has a hop for each TTL up to the maximum. -/
theorem replay_frame (x : Session) :
    x.replay.target = x.target ∧ x.replay.hops.length = x.config.max_ttl.toNat := by
  have hfold : ∀ (events : List ProbeEvent) (y : Session),
      (events.foldl applyReplayEvent y).target = y.target ∧
        (events.foldl applyReplayEvent y).hops.length = y.hops.length := by
    intro events
    induction events with
    | nil => exact fun y => ⟨rfl, rfl⟩
    | cons e events ih =>
      intro y
      obtain ⟨htarget, -, hlength⟩ := applyReplayEvent_frame y e
      rw [List.foldl_cons, (ih _).1, (ih _).2]
      exact ⟨htarget, hlength⟩
  obtain ⟨htarget, hlength⟩ := hfold x.events (new x.target x.config x.started_instant)
  refine ⟨htarget, hlength.trans ?_⟩
  simp [new, ttls]

/-- Two sessions with the same events, target, configuration and start have the same replay. -/
theorem replay_congr {x x' : Session} (events : x'.events = x.events) (target : x'.target = x.target)
    (config : x'.config = x.config) (started : x'.started_instant = x.started_instant) :
    x'.replay = x.replay := by
  unfold replay
  rw [events, target, config, started]

/-- One more event is replayed last. -/
theorem replay_snoc {x x' : Session} {e : ProbeEvent} (events : x'.events = x.events ++ [e])
    (target : x'.target = x.target) (config : x'.config = x.config)
    (started : x'.started_instant = x.started_instant) :
    x'.replay = x.replay.applyReplayEvent e := by
  unfold replay
  rw [events, target, config, started, List.foldl_append]
  rfl

/-- One more event adds its address to the late replies of its TTL, if it is one. -/
theorem late_snoc {x x' : Session} {e : ProbeEvent} (events : x'.events = x.events ++ [e])
    (k : UInt8) :
    x'.late k = x.late k ++ (if e.ttl = k then e.outcome.lateAddr else none).toList := by
  unfold late
  rw [events, List.filterMap_append, List.filterMap_cons, List.filterMap_nil]
  cases (if e.ttl = k then e.outcome.lateAddr else none) <;> rfl

/-- At every hop, the replay of the recorded events has the live tally, up to what `Tally.ReplayOf`
allows. -/
def Mirrored (x : Session) : Prop :=
  ∀ k, (x.hop k).isSome → (x.tally k).ReplayOf (x.replay.tally k) (x.late k)

/-- A new session mirrors its events, of which there are none. -/
theorem mirrored_new (target : IpAddr) (config : Config) (now : ℕ) :
    (new target config now).Mirrored := by
  intro k _
  have hreplay : (new target config now).replay = new target config now := rfl
  rw [hreplay, tally_new]
  exact Tally.replayOf_zero

section

variable {x x' : Session}

/-- An update that records no event. -/
theorem Mirrored.congr (h : x.Mirrored) (events : x'.events = x.events) (target : x'.target = x.target)
    (config : x'.config = x.config) (started : x'.started_instant = x.started_instant)
    (length : x'.hops.length = x.hops.length)
    (tally : ∀ k replayed late, (x.tally k).ReplayOf replayed late →
      (x'.tally k).ReplayOf replayed late) : x'.Mirrored := by
  intro k hk
  rw [isSome_hop, length, ← isSome_hop] at hk
  have hlate : x'.late k = x.late k := by
    unfold late
    rw [events]
  rw [replay_congr events target config started, hlate]
  exact tally k _ _ (h k hk)

/-- An update that records an event at a TTL that has a hop. -/
theorem Mirrored.record (h : x.Mirrored) (e : ProbeEvent) (events : x'.events = x.events ++ [e])
    (target : x'.target = x.target) (config : x'.config = x.config)
    (started : x'.started_instant = x.started_instant) (length : x'.hops.length = x.hops.length)
    (full : x.hops.length = x.config.max_ttl.toNat)
    (same : ∀ k, k ≠ e.ttl → x'.tally k = x.tally k)
    (tally : (x.hop e.ttl).isSome → ∀ replayed late, (x.tally e.ttl).ReplayOf replayed late →
      (x'.tally e.ttl).ReplayOf (e.outcome.replay replayed) (late ++ e.outcome.lateAddr.toList)) :
    x'.Mirrored := by
  intro k hk
  rw [isSome_hop, length, ← isSome_hop] at hk
  -- The replay has the hops of the session, so it does not skip the event.
  have hhop : (x.replay.hop e.ttl).isSome ↔ (x.hop e.ttl).isSome := by
    rw [isSome_hop, isSome_hop, (replay_frame x).2, full]
  rw [replay_snoc events target config started, late_snoc events, tally_applyReplayEvent]
  by_cases hke : k = e.ttl
  · subst hke
    rw [if_pos ⟨hhop.mpr hk, rfl⟩, if_pos rfl]
    exact tally hk _ _ (h _ hk)
  · rw [if_neg fun hc => hke hc.2, if_neg (Ne.symm hke), same k hke, Option.toList_none, List.append_nil]
    exact h k hk

end

end Session

/-! ## The destination -/

/-- The destination has been reached, at a TTL up to `ttl`. -/
def Session.Reached (x : Session) (ttl : UInt8) : Prop :=
  x.complete = true ∧ ∃ d, x.dest_ttl = some d ∧ d ≤ ttl

/-- Where the destination was reached, the session is complete, and the replay agrees on both. -/
structure Session.DestMirrored (x : Session) : Prop where
  done : x.dest_ttl.isSome → x.complete = true
  complete : x.replay.complete = x.complete
  dest_ttl : x.replay.dest_ttl = x.dest_ttl

/-- The event of a reply from the target. -/
def ProbeEvent.arrived (target : IpAddr) (e : ProbeEvent) : Bool :=
  match e.outcome with
  | .Reply addr _ => addr = target
  | _ => false

namespace Session

variable {x x' : Session} {ttl u : UInt8}

/-- Marking the destination keeps it reached. -/
theorem Reached.markDestination (h : x.Reached ttl) : (x.markDestination u).Reached ttl := by
  obtain ⟨-, d, hd, hle⟩ := h
  refine ⟨rfl, ?_⟩
  simp only [markDestination_dest_ttl, hd]
  -- A smaller TTL replaces the recorded one, and a larger one does not.
  split_ifs with hlt
  · exact ⟨u, rfl, UInt8.le_trans (UInt8.le_of_lt hlt) hle⟩
  · exact ⟨d, rfl, hle⟩

/-- Marking it where it was reached already changes nothing. -/
theorem Reached.markDestination_eq (h : x.Reached ttl) :
    true = x.complete ∧ (x.markDestination ttl).dest_ttl = x.dest_ttl := by
  obtain ⟨hc, d, hd, hle⟩ := h
  refine ⟨hc.symm, ?_⟩
  simp only [markDestination_dest_ttl, hd]
  rw [if_neg]
  rw [UInt8.lt_iff_toNat_lt]
  rw [UInt8.le_iff_toNat_le] at hle
  omega

/-- What a replayed event does to the destination. -/
theorem applyReplayEvent_dest (s : Session) (e : ProbeEvent) :
    (s.applyReplayEvent e).complete =
        (if (s.hop e.ttl).isSome ∧ e.arrived s.target then true else s.complete) ∧
      (s.applyReplayEvent e).dest_ttl =
        if (s.hop e.ttl).isSome ∧ e.arrived s.target then (s.markDestination e.ttl).dest_ttl
        else s.dest_ttl := by
  unfold applyReplayEvent
  by_cases hhop : (s.hop e.ttl).isSome
  · rw [if_neg (by rw [← Option.not_isSome, hhop]; exact Bool.false_ne_true)]
    cases ho : e.outcome with
    | Reply addr rtt_us =>
      by_cases ha : addr = s.target <;>
        simp [ProbeEvent.arrived, ho, hhop, ha]
    | Timeout => simp [ProbeEvent.arrived, ho]
    | LateReply addr rtt_us => simp [ProbeEvent.arrived, ho]
  · rw [if_pos (by simpa using hhop)]
    simp [hhop]

/-- A new session has the destination of its replay, which is none. -/
theorem destMirrored_new (target : IpAddr) (config : Config) (now : ℕ) :
    (new target config now).DestMirrored :=
  ⟨fun h => (by cases h), rfl, rfl⟩

/-- An update that records no event and leaves the destination alone. -/
theorem DestMirrored.congr (h : x.DestMirrored) (events : x'.events = x.events)
    (target : x'.target = x.target) (config : x'.config = x.config)
    (started : x'.started_instant = x.started_instant) (complete : x'.complete = x.complete)
    (dest_ttl : x'.dest_ttl = x.dest_ttl) : x'.DestMirrored := by
  obtain ⟨hdone, hcomplete, hdest⟩ := h
  refine ⟨?_, ?_, ?_⟩
  · rw [dest_ttl, complete]
    exact hdone
  · rw [replay_congr events target config started, complete, hcomplete]
  · rw [replay_congr events target config started, dest_ttl, hdest]

/-- An update that records an event, at a TTL that has a hop, and marks the destination when the event is
a reply from the target. -/
theorem DestMirrored.record (h : x.DestMirrored) (e : ProbeEvent) (events : x'.events = x.events ++ [e])
    (target : x'.target = x.target) (config : x'.config = x.config)
    (started : x'.started_instant = x.started_instant)
    (full : x.hops.length = x.config.max_ttl.toNat) (hop : e.arrived x.target → (x.hop e.ttl).isSome)
    (complete : x'.complete = if e.arrived x.target then true else x.complete)
    (dest_ttl : x'.dest_ttl =
      if e.arrived x.target then (x.markDestination e.ttl).dest_ttl else x.dest_ttl) :
    x'.DestMirrored := by
  obtain ⟨hdone, hcomplete, hdest⟩ := h
  -- The replay takes the event for a reply from the target when the session does.
  have hiff : ((x.replay.hop e.ttl).isSome ∧ e.arrived x.replay.target) ↔ e.arrived x.target := by
    rw [isSome_hop, (replay_frame x).2, ← full, ← isSome_hop, (replay_frame x).1]
    exact ⟨And.right, fun ha => ⟨hop ha, ha⟩⟩
  obtain ⟨hc, hd⟩ := applyReplayEvent_dest x.replay e
  by_cases ha : e.arrived x.target
  · rw [if_pos (hiff.mpr ha)] at hc hd
    rw [if_pos ha] at complete dest_ttl
    refine ⟨fun _ => complete, ?_, ?_⟩
    · rw [replay_snoc events target config started, hc, complete]
    · rw [replay_snoc events target config started, hd, dest_ttl, markDestination_dest_ttl,
        markDestination_dest_ttl, hdest]
  · rw [if_neg fun hh => ha (hiff.mp hh)] at hc hd
    rw [if_neg ha] at complete dest_ttl
    refine ⟨?_, ?_, ?_⟩
    · rw [dest_ttl, complete]
      exact hdone
    · rw [replay_snoc events target config started, hc, complete, hcomplete]
    · rw [replay_snoc events target config started, hd, dest_ttl, hdest]

end Session

end Ttl
